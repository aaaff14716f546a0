import WorkerBindings.Json.Reading
import WorkerBindings.Json.Text

/-!
# Strings read back

A text that is written as a JSON string is read back as it was. Each character is escaped on its own
and read as one piece: control characters without a short escape as the code unit of a `\u` escape,
all others as themselves. None of these units is half of a surrogate pair, so the pieces are joined
to the same characters again.
-/

namespace WorkerBindings

namespace Text

/-- Writing a control character as two hexadecimal digits keeps its number. -/
theorem hexNumber?_control : ∀ code < 0x20,
    hexNumber? 0 ['0', '0', hexDigit (code / 16), hexDigit (code % 16)] = some code := by
  decide

end Text

namespace Json

/-- The control characters that have an escape of two characters. -/
def isShort (character : Char) : Bool :=
  [0x08, 0x09, 0x0A, 0x0C, 0x0D].contains character.toNat

/-- The piece that the escape of a character is read as. -/
def pieceOf (character : Char) : Piece :=
  if character.toNat < 0x20 ∧ isShort character = false then .unit character.toNat
  else .plain character

theorem pieceOf_printable {character : Char} (printable : 0x20 ≤ character.toNat) :
    pieceOf character = .plain character := by
  unfold pieceOf
  rw [if_neg]
  rintro ⟨control, _⟩
  omega

/-- A short escape is read as the character that it stands for. -/
theorem readPieces?_short {kind meant : Char} (stands : shortEscape? kind = some meant)
    (rest : List Char) :
    readPieces? ('\\' :: kind :: rest) = withPiece (.plain meant) (readPieces? rest) := by
  rw [readPieces?.eq_def]
  simp [stands]

theorem readPieces?_unit {code : Nat} (control : code < 0x20) (rest : List Char) :
    readPieces? ('\\' :: 'u' :: '0' :: '0' :: Text.hexDigit (code / 16) ::
      Text.hexDigit (code % 16) :: rest) = withPiece (.unit code) (readPieces? rest) := by
  have unit : hexUnit? '0' '0' (Text.hexDigit (code / 16)) (Text.hexDigit (code % 16)) =
      some code := Text.hexNumber?_control code control
  have noShort : shortEscape? 'u' = none := by decide
  rw [readPieces?.eq_def]
  simp [noShort, unit]

/-- The escape of a character is read as one piece. -/
theorem readPieces?_escape (character : Char) (rest : List Char) :
    readPieces? (escape character ++ rest) =
      withPiece (pieceOf character) (readPieces? rest) := by
  have sameCode : ∀ {code : Nat}, character.toNat = code → character = Char.ofNat code := by
    rintro code rfl
    exact (Char.ofNat_toNat character).symm
  unfold escape
  split
  · rename_i quote
    subst quote
    exact readPieces?_short (by decide) rest
  split
  · rename_i backslash
    subst backslash
    exact readPieces?_short (by decide) rest
  split
  · rename_i notQuote notBackslash printable
    rw [pieceOf_printable printable, List.singleton_append, readPieces?.eq_def]
    simp [notQuote, notBackslash, Nat.not_lt.mpr printable]
  split
  · rename_i code
    rw [sameCode code]
    exact readPieces?_short (by decide) rest
  split
  · rename_i code
    rw [sameCode code]
    exact readPieces?_short (by decide) rest
  split
  · rename_i code
    rw [sameCode code]
    exact readPieces?_short (by decide) rest
  split
  · rename_i code
    rw [sameCode code]
    exact readPieces?_short (by decide) rest
  split
  · rename_i code
    rw [sameCode code]
    exact readPieces?_short (by decide) rest
  · rename_i notPrintable notBackspace notTab notNewline notFormFeed notReturn
    have control : character.toNat < 0x20 := Nat.not_le.mp notPrintable
    have notShort : isShort character = false := by
      simp [isShort, notBackspace, notTab, notNewline, notFormFeed, notReturn]
    rw [pieceOf, if_pos ⟨control, notShort⟩]
    exact readPieces?_unit control rest

/-- The inside of a written string is read up to its closing quote. -/
theorem readPieces?_escaped (characters rest : List Char) :
    readPieces? (characters.flatMap escape ++ '"' :: rest) =
      some (characters.map pieceOf, rest) := by
  induction characters with
  | nil =>
    rw [List.flatMap_nil, List.nil_append, readPieces?.eq_def]
    rfl
  | cons character others ih =>
    rw [List.flatMap_cons, List.append_assoc, readPieces?_escape, ih]
    rfl

/-- The unit of a control character is joined to no neighbour. -/
theorem joinPieces?_unit {code : Nat} (control : code < 0x20) (rest : List Piece) :
    joinPieces? (.unit code :: rest) = (joinPieces? rest).map (Char.ofNat code :: ·) := by
  have alone : Text.isSurrogate code = false := by
    simp only [Text.isSurrogate, Bool.and_eq_false_iff, decide_eq_false_iff_not]
    omega
  match rest with
  | [] => simp [joinPieces?, alone]
  | .plain other :: others => simp [joinPieces?, alone]
  | .unit other :: others =>
    have unpaired : Text.pairedCharacter? code other = none := by
      unfold Text.pairedCharacter?
      rw [if_neg]
      omega
    simp [joinPieces?, alone, unpaired]

theorem joinPieces?_pieceOf (characters : List Char) :
    joinPieces? (characters.map pieceOf) = some characters := by
  induction characters with
  | nil => rfl
  | cons character rest ih =>
    rw [List.map_cons]
    by_cases asUnit : character.toNat < 0x20 ∧ isShort character = false
    · rw [pieceOf, if_pos asUnit, joinPieces?_unit asUnit.1, ih, Char.ofNat_toNat]
      rfl
    · rw [pieceOf, if_neg asUnit, joinPieces?, ih]
      rfl

end Json

namespace Reading

theorem ofPieces_pieceOf (text : String) :
    ofPieces (text.toList.map Json.pieceOf) = .string text := by
  unfold ofPieces
  rw [Json.joinPieces?_pieceOf]
  simp

theorem keyOfPieces_pieceOf (text : String) :
    keyOfPieces (text.toList.map Json.pieceOf) = some text := by
  unfold keyOfPieces
  rw [Json.joinPieces?_pieceOf]
  simp

end Reading

end WorkerBindings
