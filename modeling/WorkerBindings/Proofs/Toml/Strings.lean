import WorkerBindings.Toml.Text

/-!
# TOML strings read back

A text is read back as it was from any of the four forms that it fits, and it fits the one that is
chosen for it. Forms with escapes fit every text: each character is spelled on its own, and a quote
is bare only where the row of quotes before it is short enough. In a block the row of quotes at the
end of the text runs into the closing ones; the reader counts the same rows as the writer and closes
as late as it can.
-/

namespace WorkerBindings.Toml

/-- Writing a code as four hexadecimal digits keeps it. -/
theorem hexNumber?_upper : ∀ code < 0x80, Text.hexNumber? 0
    ['0', '0', Text.upperHexDigit (code / 16), Text.upperHexDigit (code % 16)] = some code := by
  decide

/-- How a character is spelled in a form with escapes: as itself, unless it is a quote, or as an
escape that is read as the character and does not end a line. -/
inductive Spells (inBlock : Bool) (character : Char) : List Char → Prop
  | bare (notQuote : character ≠ '"') (notBackslash : character ≠ '\\')
      (plain : inBlock = false → isPlain character = true)
      (printable : isControl character = false) :
      Spells inBlock character [character]
  | escape {kind : Char} {digits : List Char}
      (read : ∀ rest, readEscape? (kind :: digits ++ rest) = some (character, digits.length + 1))
      (goesOn : ∀ rest, endsLine (kind :: rest) = false) :
      Spells inBlock character ('\\' :: kind :: digits)

theorem readEscape?_short {kind meant : Char} (stands : shortEscape? kind = some meant)
    (rest : List Char) : readEscape? (kind :: rest) = some (meant, 1) := by
  rw [readEscape?, stands]

theorem readEscape?_code {code : Nat} (small : code < 0x80) (rest : List Char) :
    readEscape? ('u' ::
      ['0', '0', Text.upperHexDigit (code / 16), Text.upperHexDigit (code % 16)] ++ rest) =
        some (Char.ofNat code, 5) := by
  have valid : code.isValidChar := .inl (Nat.lt_trans small (by decide))
  have noShort : shortEscape? 'u' = none := by decide
  have width : escapeWidth? 'u' = some 4 := by decide
  rw [List.cons_append, readEscape?, noShort, width]
  simp [hexNumber?_upper code small, ofCode?, valid]

/-- A letter or a backslash is no end of a line. -/
theorem endsLine_cons {kind : Char} (solid : (kind == ' ' || kind == '\t') = false)
    (notBreak : kind ≠ '\n') (notReturn : kind ≠ '\r') (rest : List Char) :
    endsLine (kind :: rest) = false := by
  unfold endsLine
  rw [List.dropWhile_cons_of_neg (by simp [solid])]
  split
  · rename_i same
    exact absurd (List.cons.inj same).1 notBreak
  · rename_i same
    exact absurd (List.cons.inj same).1 notReturn
  · rfl

theorem spells_short {inBlock : Bool} {character kind : Char}
    (stands : shortEscape? kind = some character)
    (solid : (kind == ' ' || kind == '\t') = false ∧ kind ≠ '\n' ∧ kind ≠ '\r') :
    Spells inBlock character ['\\', kind] :=
  .escape (readEscape?_short stands) (endsLine_cons solid.1 solid.2.1 solid.2.2)

/-- Every character but the quote is spelled by what is written for it. -/
theorem spells_escape (inBlock : Bool) {character : Char} (notQuote : character ≠ '"') :
    Spells inBlock character (escape inBlock character) := by
  have sameCode : ∀ {code : Nat}, character.toNat = code → character = Char.ofNat code := by
    rintro code rfl
    exact (Char.ofNat_toNat character).symm
  unfold escape
  split
  · rename_i isBreak
    subst isBreak
    cases inBlock with
    | true => exact .bare notQuote (by decide) nofun (by decide)
    | false => exact spells_short (by decide) (by decide)
  rename_i notBreak
  split
  · rename_i isTab
    subst isTab
    exact spells_short (by decide) (by decide)
  split
  · rename_i isReturn
    subst isReturn
    exact spells_short (by decide) (by decide)
  split
  · rename_i isBackslash
    subst isBackslash
    exact spells_short (by decide) (by decide)
  rename_i notBackslash
  split
  · rename_i code
    rw [sameCode code]
    exact spells_short (by decide) (by decide)
  split
  · rename_i code
    rw [sameCode code]
    exact spells_short (by decide) (by decide)
  split
  · rename_i control
    have small : character.toNat < 0x80 := by
      simp only [isControl, Bool.and_eq_true, Bool.or_eq_true, decide_eq_true_eq,
        beq_iff_eq] at control
      omega
    refine .escape (fun rest => ?_) (endsLine_cons (by decide) (by decide) (by decide))
    rw [readEscape?_code small, Char.ofNat_toNat]
    rfl
  · rename_i notControl
    have printable : isControl character = false := Bool.eq_false_iff.mpr notControl
    exact .bare notQuote notBackslash (fun _ => by simp [isPlain, printable, notBreak]) printable

/-- What is spelled starts with no quote and no carriage return, and with a line break only if it
spells that. -/
theorem Spells.start {inBlock : Bool} {character : Char} {spelled : List Char}
    (spells : Spells inBlock character spelled) :
    ∃ first others, spelled = first :: others ∧ first ≠ '"' ∧ first ≠ '\r' ∧
      (first = '\n' → character = '\n') := by
  cases spells with
  | bare notQuote notBackslash plain printable =>
    refine ⟨character, [], rfl, notQuote, ?_, id⟩
    rintro rfl
    exact absurd printable (by decide)
  | escape => exact ⟨'\\', _, rfl, by decide, by decide, fun isBreak => absurd isBreak (by decide)⟩

/-- A quote stands bare in a block behind a short row of quotes. Everything else is spelled on its
own, and ends the row. -/
theorem escapeFrom_cons (inBlock : Bool) (row : Nat) (character : Char) (others : List Char) :
    (inBlock = true ∧ character = '"' ∧ row < 2 ∧
      escapeFrom inBlock row (character :: others) = '"' :: escapeFrom inBlock (row + 1) others) ∨
    ∃ spelled, Spells inBlock character spelled ∧
      escapeFrom inBlock row (character :: others) = spelled ++ escapeFrom inBlock 0 others := by
  rw [escapeFrom]
  by_cases quote : character = '"'
  · subst quote
    rw [if_pos rfl]
    by_cases room : row < if inBlock then 2 else 0
    · cases inBlock with
      | true => exact .inl ⟨rfl, rfl, room, if_pos room⟩
      | false => exact absurd room (Nat.not_lt_zero row)
    · exact .inr ⟨['\\', '"'], spells_short (by decide) (by decide), if_neg room⟩
  · rw [if_neg quote]
    exact .inr ⟨_, spells_escape inBlock quote, rfl⟩

theorem readBasic?_pending (dropped rest : List Char) :
    readBasic? (dropped ++ rest) dropped.length = readBasic? rest 0 := by
  induction dropped with
  | nil => rfl
  | cons character others ih =>
    rw [List.cons_append, List.length_cons, readBasic?]
    exact ih

theorem readBasic?_spells {character : Char} {spelled : List Char}
    (spells : Spells false character spelled) (rest : List Char) :
    readBasic? (spelled ++ rest) 0 = withCharacter character (readBasic? rest 0) := by
  cases spells with
  | bare notQuote notBackslash plain printable =>
    rw [List.singleton_append, readBasic?, if_neg notQuote, if_neg notBackslash, if_pos (plain rfl)]
  | @escape kind digits read goesOn =>
    rw [List.cons_append, readBasic?, if_neg (by decide), if_pos rfl, read]
    dsimp only
    rw [← readBasic?_pending (kind :: digits) rest, List.length_cons]

/-- What is written with escapes on one line is read up to the closing quote. -/
theorem readBasic?_escapeFrom (text : List Char) (row : Nat) (rest : List Char) :
    readBasic? (escapeFrom false row text ++ '"' :: rest) 0 = some (text, rest) := by
  induction text generalizing row with
  | nil =>
    rw [escapeFrom, List.nil_append, readBasic?]
    rfl
  | cons character others ih =>
    rcases escapeFrom_cons false row character others with ⟨inBlock, _⟩ | ⟨spelled, spells, shape⟩
    · cases inBlock
    · rw [shape, List.append_assoc, readBasic?_spells spells, ih]
      rfl

/-- A text of plain characters without a single quote is read up to the closing one. -/
theorem readLiteral?_append {text : List Char}
    (plain : ∀ c ∈ text, isPlain c = true ∧ c ≠ '\'') (rest : List Char) :
    readLiteral? (text ++ '\'' :: rest) = some (text, rest) := by
  induction text with
  | nil => rfl
  | cons character others ih =>
    rw [List.forall_mem_cons] at plain
    rw [List.cons_append, readLiteral?, if_neg plain.1.2, if_pos plain.1.1, ih plain.2]
    rfl

theorem longestRow_eq_max (quote : Char) (text : List Char) (row longest : Nat) :
    longestRow quote row longest text = max longest (longestRow quote row 0 text) := by
  induction text generalizing row longest with
  | nil => simp [longestRow]
  | cons character others ih =>
    rw [longestRow, longestRow]
    split
    · rw [ih _ (max longest (row + 1)), ih _ (max 0 (row + 1))]
      omega
    · exact ih 0 longest

/-- Whether no row of quotes is longer than two, given the row that the text continues. -/
def RowsFit (quote : Char) (row : Nat) (text : List Char) : Prop :=
  longestRow quote row 0 text ≤ 2

theorem rowsFit_cons_self {quote : Char} {row : Nat} {others : List Char}
    (fit : RowsFit quote row (quote :: others)) : row < 2 ∧ RowsFit quote (row + 1) others := by
  unfold RowsFit at fit ⊢
  rw [longestRow, if_pos rfl, longestRow_eq_max] at fit
  omega

theorem rowsFit_cons_ne {quote character : Char} {row : Nat} {others : List Char}
    (differs : character ≠ quote) (fit : RowsFit quote row (character :: others)) :
    RowsFit quote 0 others := by
  unfold RowsFit at fit ⊢
  rwa [longestRow, if_neg differs] at fit

theorem notMem_of_quoteRow {quote : Char} {text : List Char} (none : quoteRow quote text = 0) :
    quote ∉ text := by
  have rows : ∀ row, longestRow quote row 0 text = 0 → quote ∉ text := by
    clear none
    induction text with
    | nil => simp
    | cons character others ih =>
      intro row none
      rw [longestRow] at none
      split at none
      · rw [longestRow_eq_max] at none
        omega
      · rename_i differs
        exact List.not_mem_cons_of_ne_of_not_mem (Ne.symm differs) (ih 0 none)
  exact rows 0 none

/-- If two more quotes follow, then so does a third one. -/
def Continues (quote : Char) (characters : List Char) : Prop :=
  ∀ rest, characters = quote :: quote :: rest → rest.head? = some quote

/-- A quote closes no block if the row before it is short and more than two follow, or fewer. -/
theorem closes_eq_false {quote : Char} {row : Nat} (short : row < 2) {characters : List Char}
    (goesOn : Continues quote characters) : closes quote row (quote :: characters) = false := by
  match characters with
  | [] => rfl
  | [_] => rfl
  | second :: third :: rest =>
    have notFull : ¬ 2 ≤ row := Nat.not_le.mpr short
    rw [closes]
    by_cases quotes : second = quote ∧ third = quote
    · obtain ⟨rfl, rfl⟩ := quotes
      simp [goesOn rest rfl, notFull]
    · have differ : (quote == quote && second == quote && third == quote) = false := by
        simpa using quotes
      rw [differ, Bool.false_and]

theorem closes_self {quote : Char} {rest : List Char} (ends : rest.head? ≠ some quote) (row : Nat) :
    closes quote row (quote :: quote :: quote :: rest) = true := by
  simp [closes, ends]

theorem continues_append {quote : Char} {row : Nat} {text : List Char}
    (fit : RowsFit quote (row + 1) text) (rest : List Char) :
    Continues quote (text ++ quote :: quote :: quote :: rest) := by
  rintro more same
  match text with
  | [] =>
    cases same
    rfl
  | [first] =>
    cases same
    rfl
  | first :: second :: others =>
    cases same
    have := (rowsFit_cons_self (rowsFit_cons_self fit).2).1
    omega

/-- A text without control characters or long rows of single quotes is read up to the closing
ones. -/
theorem readLiteralBlock?_append {text : List Char} {row : Nat}
    (printable : ∀ c ∈ text, isControl c = false) (fit : RowsFit '\'' row text) {rest : List Char}
    (ends : rest.head? ≠ some '\'') :
    readLiteralBlock? (text ++ '\'' :: '\'' :: '\'' :: rest) row = some (text, rest) := by
  induction text generalizing row with
  | nil =>
    rw [List.nil_append, readLiteralBlock?, if_neg (by decide), if_pos rfl,
      if_pos (closes_self ends row)]
    rfl
  | cons character others ih =>
    rw [List.forall_mem_cons] at printable
    have notReturn : character ≠ '\r' := by
      rintro rfl
      exact absurd printable.1 (by decide)
    rw [List.cons_append, readLiteralBlock?, if_neg notReturn]
    split
    · rename_i quote
      subst quote
      obtain ⟨short, fitOthers⟩ := rowsFit_cons_self fit
      rw [closes_eq_false short (continues_append fitOthers rest), if_neg Bool.false_ne_true,
        ih printable.2 fitOthers]
      rfl
    · rename_i notQuote
      rw [printable.1, if_neg Bool.false_ne_true, ih printable.2 (rowsFit_cons_ne notQuote fit)]
      rfl

theorem readBasicBlock?_pending (first : Char) (dropped rest : List Char) :
    readBasicBlock? (first :: dropped ++ rest) (.pending (dropped.length + 1)) =
      readBasicBlock? rest (.text 0) := by
  induction dropped generalizing first with
  | nil => rfl
  | cons character others ih => exact ih character

theorem readBasicBlock?_spells {character : Char} {spelled : List Char}
    (spells : Spells true character spelled) (row : Nat) (rest : List Char) :
    readBasicBlock? (spelled ++ rest) (.text row) =
      withCharacter character (readBasicBlock? rest (.text 0)) := by
  cases spells with
  | bare notQuote notBackslash plain printable =>
    have notReturn : character ≠ '\r' := by
      rintro rfl
      exact absurd printable (by decide)
    rw [List.singleton_append, readBasicBlock?.eq_def]
    simp only [reduceCtorEq, false_and, if_false, if_neg notReturn, if_neg notQuote,
      if_neg notBackslash, printable, Bool.false_eq_true]
  | @escape kind digits read goesOn =>
    have next := readBasicBlock?_pending kind digits rest
    rw [List.cons_append] at next
    rw [List.cons_append, readBasicBlock?.eq_def]
    simp only [reduceCtorEq, false_and, if_false, Char.reduceEq, if_true, goesOn,
      Bool.false_eq_true, List.cons_append]
    rw [← List.cons_append, read, ← next]
    rfl

theorem readBasicBlock?_quote {row : Nat} (short : row < 2) {characters : List Char}
    (goesOn : Continues '"' characters) :
    readBasicBlock? ('"' :: characters) (.text row) =
      withCharacter '"' (readBasicBlock? characters (.text (row + 1))) := by
  rw [readBasicBlock?.eq_def]
  simp only [reduceCtorEq, false_and, if_false, Char.reduceEq, if_true,
    closes_eq_false short goesOn, Bool.false_eq_true]

/-- The row of quotes at the front of what is written in a block does not end two quotes behind
another one, unless the text ends there. -/
theorem continues_escapeFrom {row : Nat} (short : row < 2) (text rest : List Char) :
    Continues '"' (escapeFrom true (row + 1) text ++ '"' :: '"' :: '"' :: rest) := by
  have notFirst : ∀ {character : Char} {spelled others more : List Char},
      Spells true character spelled → spelled ++ others ≠ '"' :: more := by
    intro character spelled others more spells same
    obtain ⟨first, spelled, rfl, notQuote, _⟩ := spells.start
    exact notQuote (List.cons.inj same).1
  rintro more same
  match text with
  | [] =>
    cases same
    rfl
  | first :: others =>
    rcases escapeFrom_cons true (row + 1) first others with ⟨_, _, room, shape⟩ | ⟨_, spells, shape⟩
    · rw [shape, List.cons_append] at same
      match others with
      | [] =>
        cases same
        rfl
      | second :: others =>
        -- Two quotes stand bare already, and a third would be escaped.
        rcases escapeFrom_cons true (row + 1 + 1) second others with
          ⟨_, _, full, _⟩ | ⟨_, spells, shape⟩
        · omega
        · rw [shape, List.append_assoc] at same
          exact absurd (List.cons.inj same).2 (notFirst spells)
    · rw [shape, List.append_assoc] at same
      exact absurd same (notFirst spells)

/-- What is written with escapes in a block is read up to the closing quotes. -/
theorem readBasicBlock?_escapeFrom (text : List Char) (row : Nat) {rest : List Char}
    (ends : rest.head? ≠ some '"') :
    readBasicBlock? (escapeFrom true row text ++ '"' :: '"' :: '"' :: rest) (.text row) =
      some (text, rest) := by
  induction text generalizing row with
  | nil =>
    rw [escapeFrom, List.nil_append, readBasicBlock?.eq_def]
    simp only [reduceCtorEq, false_and, if_false, Char.reduceEq, if_true, closes_self ends row]
    rfl
  | cons character others ih =>
    rcases escapeFrom_cons true row character others with
      ⟨_, rfl, short, shape⟩ | ⟨spelled, spells, shape⟩
    · rw [shape, List.cons_append,
        readBasicBlock?_quote short (continues_escapeFrom short others rest), ih]
      rfl
    · rw [shape, List.append_assoc, readBasicBlock?_spells spells, ih]
      rfl

/-- What a form without escapes asks of a text; the others fit all texts. -/
def TextForm.Fits (text : List Char) : TextForm → Prop
  | .basic => True
  | .literal => ∀ c ∈ text, isPlain c = true ∧ c ≠ '\''
  | .basicBlock => True
  | .literalBlock => (∀ c ∈ text, isControl c = false) ∧ RowsFit '\'' 0 text

/-- The form that is chosen for a text fits it. -/
theorem formOf_fits (text : List Char) : (formOf text).Fits text := by
  have printable : (!text.any isControl) = true → ∀ c ∈ text, isControl c = false := by
    intro none c member
    rw [Bool.not_eq_true', List.any_eq_false] at none
    exact Bool.eq_false_iff.mpr (none c member)
  unfold formOf
  dsimp only
  split
  · trivial
  split
  · rename_i literal
    simp only [Bool.and_eq_true, decide_eq_true_eq] at literal
    obtain ⟨⟨noControl, noQuote⟩, noBreak⟩ := literal
    intro c member
    have notQuote : c ≠ '\'' := by
      rintro rfl
      exact notMem_of_quoteRow noQuote member
    have notBreak : c ≠ '\n' := by
      rintro rfl
      rw [Bool.not_eq_true', List.contains_eq_mem, decide_eq_false_iff_not] at noBreak
      exact noBreak member
    exact ⟨by simp [isPlain, printable noControl c member, notBreak], notQuote⟩
  split
  · trivial
  split
  · rename_i block
    simp only [Bool.and_eq_true, decide_eq_true_eq] at block
    exact ⟨printable block.1, block.2⟩
  split <;> trivial

/-- A text does not end where a quote follows: nothing would tell it from one of its own. -/
structure EndsText (rest : List Char) : Prop where
  double : rest.head? ≠ some '"'
  single : rest.head? ≠ some '\''

/-- The line break at the front of a block is the one that is put there. -/
theorem afterBlockBreak_append {text written : List Char} (notReturn : written.head? ≠ some '\r')
    (same : written.head? = some '\n' → '\n' ∈ text) :
    afterBlockBreak (blockBreak text ++ written) = written := by
  unfold blockBreak
  split
  · rfl
  · rename_i noBreak
    rw [List.contains_iff_mem] at noBreak
    rw [List.nil_append]
    unfold afterBlockBreak
    split
    · exact absurd (same rfl) noBreak
    · exact absurd rfl notReturn
    · rfl

/-- What is written in a block with escapes starts with a line break only if the text does, and
never with a carriage return. -/
theorem escapeFrom_start (text rest : List Char) :
    (escapeFrom true 0 text ++ '"' :: rest).head? ≠ some '\r' ∧
      ((escapeFrom true 0 text ++ '"' :: rest).head? = some '\n' → '\n' ∈ text) := by
  match text with
  | [] => exact ⟨by simp [escapeFrom], by simp [escapeFrom]⟩
  | first :: others =>
    rcases escapeFrom_cons true 0 first others with ⟨_, rfl, _, shape⟩ | ⟨_, spells, shape⟩
    · rw [shape]
      exact ⟨by simp, by simp⟩
    · obtain ⟨start, spelled, rfl, _, notReturn, onlyBreak⟩ := spells.start
      rw [shape]
      refine ⟨by simpa using notReturn, fun isBreak => ?_⟩
      rw [onlyBreak (Option.some.inj isBreak)]
      exact List.mem_cons_self

theorem readText?_of_notBlock {characters : List Char}
    (double : ∀ rest, characters ≠ '"' :: '"' :: '"' :: rest)
    (single : ∀ rest, characters ≠ '\'' :: '\'' :: '\'' :: rest) :
    readText? characters = readLineText? characters := by
  unfold readText?
  split
  · exact absurd rfl (double _)
  · exact absurd rfl (single _)
  · rfl

/-- A text in a form that it fits is read back. -/
theorem readText?_writeAs {text : List Char} {form : TextForm} (fits : form.Fits text)
    {rest : List Char} (ends : EndsText rest) :
    readText? (writeAs text form ++ rest) = some (text, rest) := by
  cases form with
  | basic =>
    have shape : writeAs text .basic ++ rest = '"' :: (escapeFrom false 0 text ++ '"' :: rest) := by
      simp [writeAs]
    rw [shape, readText?_of_notBlock]
    · exact readBasic?_escapeFrom text 0 rest
    · rintro more same
      match text with
      | [] =>
        cases same
        exact ends.double rfl
      | first :: others =>
        rcases escapeFrom_cons false 0 first others with ⟨inBlock, _⟩ | ⟨_, spells, written⟩
        · cases inBlock
        · obtain ⟨start, spelled, rfl, notQuote, _⟩ := spells.start
          rw [written] at same
          exact notQuote (List.cons.inj (List.cons.inj same).2).1
    · rintro more same
      exact absurd (List.cons.inj same).1 (by decide)
  | literal =>
    have shape : writeAs text .literal ++ rest = '\'' :: (text ++ '\'' :: rest) := by
      simp [writeAs]
    rw [shape, readText?_of_notBlock]
    · exact readLiteral?_append fits rest
    · rintro more same
      exact absurd (List.cons.inj same).1 (by decide)
    · rintro more same
      match text with
      | [] =>
        cases same
        exact ends.single rfl
      | first :: others =>
        exact (fits first List.mem_cons_self).2 (List.cons.inj (List.cons.inj same).2).1
  | basicBlock =>
    have shape : writeAs text .basicBlock ++ rest = '"' :: '"' :: '"' ::
        (blockBreak text ++ (escapeFrom true 0 text ++ '"' :: '"' :: '"' :: rest)) := by
      simp [writeAs]
    obtain ⟨notReturn, onlyBreak⟩ := escapeFrom_start text ('"' :: '"' :: rest)
    rw [shape, readText?, afterBlockBreak_append notReturn onlyBreak]
    exact readBasicBlock?_escapeFrom text 0 ends.double
  | literalBlock =>
    have shape : writeAs text .literalBlock ++ rest = '\'' :: '\'' :: '\'' ::
        (blockBreak text ++ (text ++ '\'' :: '\'' :: '\'' :: rest)) := by
      simp [writeAs]
    obtain ⟨printable, rows⟩ := fits
    have start : (text ++ '\'' :: '\'' :: '\'' :: rest).head? ≠ some '\r' ∧
        ((text ++ '\'' :: '\'' :: '\'' :: rest).head? = some '\n' → '\n' ∈ text) := by
      match text with
      | [] => exact ⟨by simp, by simp⟩
      | first :: others =>
        have control := printable first List.mem_cons_self
        refine ⟨?_, fun isBreak => ?_⟩
        · rintro isReturn
          rw [Option.some.inj isReturn] at control
          exact absurd control (by decide)
        · rw [Option.some.inj isBreak]
          exact List.mem_cons_self
    rw [shape, readText?, afterBlockBreak_append start.1 start.2]
    exact readLiteralBlock?_append printable rows ends.single

/-- A text that is written is read back. -/
theorem readText?_writeText (text : String) {rest : List Char} (ends : EndsText rest) :
    readText? (writeText text ++ rest) = some (text.toList, rest) :=
  readText?_writeAs (formOf_fits text.toList) ends

end WorkerBindings.Toml
