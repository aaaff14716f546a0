import Mathlib.Data.List.DropRight
import WorkerBindings.Proofs.Json.Layout

/-!
# JSON text read back

Whatever the layout, the text of a value is read as that value: `ofText_compact` and `ofText_pretty`
say so for whole documents. The numbers in it have to be integers of 64 bits. The bound on calls
that `ofText` chooses is always large enough, because every call but those for the items and members
takes a character.
-/

namespace WorkerBindings

namespace Json

mutual

/-- Whether all numbers of a value are integers of 64 bits. -/
def IsIntegral : Json → Prop
  | .number (.integer value) => fitsInteger value
  | .number (.double _) => False
  | .array items => AreIntegral items
  | .object members => MembersAreIntegral members
  | _ => True

/-- Whether all numbers of several values are. -/
def AreIntegral : List Json → Prop
  | [] => True
  | item :: rest => item.IsIntegral ∧ AreIntegral rest

/-- Whether all numbers among the values of members are. -/
def MembersAreIntegral : List (String × Json) → Prop
  | [] => True
  | (_, value) :: rest => value.IsIntegral ∧ MembersAreIntegral rest

end

end Json

namespace Reading

mutual

/-- A value as it is read. -/
def ofJson : Json → Reading
  | .null => .null
  | .bool value => .bool value
  | .number value => .number value
  | .string value => .string value
  | .array items => .array (ofItems items)
  | .object members => .object (ofMembers members)

/-- Several values as they are read. -/
def ofItems : List Json → List Reading
  | [] => []
  | item :: rest => ofJson item :: ofItems rest

/-- Members as they are read. -/
def ofMembers : List (String × Json) → List (Option String × Reading)
  | [] => []
  | (key, value) :: rest => (some key, ofJson value) :: ofMembers rest

end

/-- Space in front of a text is skipped. -/
theorem skipSpace_append {spaces : List Char} (blank : ∀ c ∈ spaces, isSpace c = true)
    (rest : List Char) : skipSpace (spaces ++ rest) = skipSpace rest :=
  List.dropWhile_append_of_pos blank

theorem skipSpace_cons (first : Char) (solid : isSpace first = false) (rest : List Char) :
    skipSpace (first :: rest) = first :: rest := by
  have notBlank : ¬ isSpace first = true := by simp [solid]
  exact List.dropWhile_cons_of_neg notBlank

theorem skipSpace_skipSpace (characters : List Char) :
    skipSpace (skipSpace characters) = skipSpace characters :=
  List.dropWhile_idempotent _ characters

theorem readValue_skipSpace (fuel : Nat) (characters : List Char) :
    readValue fuel (skipSpace characters) = readValue fuel characters := by
  cases fuel with
  | zero => rfl
  | succ fuel => rw [readValue, readValue, skipSpace_skipSpace]

theorem readItems_skipSpace (fuel : Nat) (characters : List Char) :
    readItems fuel (skipSpace characters) = readItems fuel characters := by
  cases fuel with
  | zero => rfl
  | succ fuel => rw [readItems, readItems, readValue_skipSpace]

theorem readMembers_skipSpace (fuel : Nat) (characters : List Char) :
    readMembers fuel (skipSpace characters) = readMembers fuel characters := by
  cases fuel with
  | zero => rfl
  | succ fuel => rw [readMembers, readMembers, skipSpace_skipSpace]

theorem readValue_append {spaces : List Char} (blank : ∀ c ∈ spaces, isSpace c = true)
    (fuel : Nat) (rest : List Char) : readValue fuel (spaces ++ rest) = readValue fuel rest := by
  rw [← readValue_skipSpace, skipSpace_append blank, readValue_skipSpace]

/-- A number literal ends before space. -/
theorem endsNumber_append {spaces rest : List Char} (blank : ∀ c ∈ spaces, isSpace c = true)
    (ends : Json.endsNumber rest = true) : Json.endsNumber (spaces ++ rest) = true := by
  cases spaces with
  | nil => exact ends
  | cons first others =>
    have space : isSpace first = true := blank first List.mem_cons_self
    simp only [isSpace, Bool.or_eq_true, beq_iff_eq] at space
    rcases space with ((space | tab) | newline) | return' <;> subst_vars <;> rfl

/-- A character that may start a value: neither space nor a closing bracket. -/
def startsValue (first : Char) : Bool :=
  !isSpace first && first != ']' && first != '\x7d'

/-- A character that may start a number literal. -/
def startsNumber (first : Char) : Bool :=
  Text.isDigit first || first == '-'

theorem ne_of_startsNumber {first : Char} (starts : startsNumber first = true) {other : Char}
    (never : startsNumber other = false) : first ≠ other := by
  rintro rfl
  rw [starts] at never
  cases never

theorem startsValue_of_startsNumber {first : Char} (starts : startsNumber first = true) :
    startsValue first = true := by
  have differs : ∀ other, startsNumber other = false → first ≠ other := fun _ never =>
    ne_of_startsNumber starts never
  simp [startsValue, isSpace, differs ' ' rfl, differs '\t' rfl, differs '\n' rfl,
    differs '\r' rfl, differs ']' rfl, differs '\x7d' rfl]

theorem numberText_starts (value : Int) :
    ∃ first rest, Json.numberText (.integer value) = first :: rest ∧
      startsNumber first = true := by
  rcases Int.lt_or_le value 0 with negative | natural
  · exact ⟨_, _, Json.numberText_negative negative, rfl⟩
  · rw [Json.numberText_natural natural]
    cases found : Text.digits value.natAbs with
    | nil => exact absurd found (Text.digits_ne_nil _)
    | cons first rest =>
      have isDigit : Text.isDigit first = true :=
        Text.isDigit_of_mem_digits (found ▸ List.mem_cons_self)
      exact ⟨first, rest, rfl, by simp [startsNumber, isDigit]⟩

/-- The text of a value starts with a character that is neither space nor a closing bracket. -/
theorem laidOut_starts (layout : Json.Layout) (level : Nat) {value : Json}
    (integral : value.IsIntegral) :
    ∃ first rest, Json.laidOut layout level value = first :: rest ∧ startsValue first = true := by
  match value with
  | .null => exact ⟨_, _, rfl, by decide⟩
  | .bool true => exact ⟨_, _, rfl, by decide⟩
  | .bool false => exact ⟨_, _, rfl, by decide⟩
  | .number (.integer whole) =>
    obtain ⟨first, rest, text, starts⟩ := numberText_starts whole
    exact ⟨first, rest, text, startsValue_of_startsNumber starts⟩
  | .number (.double _) => exact integral.elim
  | .string _ => exact ⟨_, _, rfl, by decide⟩
  | .array [] => exact ⟨_, _, rfl, by decide⟩
  | .array (_ :: _) => exact ⟨_, _, rfl, by decide⟩
  | .object [] => exact ⟨_, _, rfl, by decide⟩
  | .object (_ :: _) => exact ⟨_, _, rfl, by decide⟩

theorem readValue_string (text : String) (fuel : Nat) (rest : List Char) :
    readValue (fuel + 1) (Json.quoted text ++ rest) = (.string text, some rest) := by
  have written : Json.quoted text ++ rest =
      '"' :: (text.toList.flatMap Json.escape ++ '"' :: rest) := by
    simp [Json.quoted]
  rw [written, readValue, skipSpace_cons _ (by decide)]
  simp only [if_true, Json.readPieces?_escaped, ofPieces_pieceOf]

theorem readValue_integer {value : Int} (fits : Json.fitsInteger value) (fuel : Nat)
    {rest : List Char} (ends : Json.endsNumber rest = true) :
    readValue (fuel + 1) (Json.numberText (.integer value) ++ rest) =
      (.number (.integer value), some rest) := by
  have literal := Json.readNumber?_numberText value ends
  obtain ⟨first, others, text, starts⟩ := numberText_starts value
  have differs : ∀ other, startsNumber other = false → first ≠ other := fun _ never =>
    ne_of_startsNumber starts never
  have solid : isSpace first = false := by
    have starts := startsValue_of_startsNumber starts
    simp only [startsValue, Bool.and_eq_true, Bool.not_eq_true'] at starts
    exact starts.1.1
  rw [text] at literal ⊢
  rw [List.cons_append] at literal ⊢
  rw [readValue, skipSpace_cons _ solid]
  simp only [differs '"' rfl, differs '[' rfl, differs '\x7b' rfl, differs 'n' rfl,
    differs 't' rfl, differs 'f' rfl, if_false, literal, ofLiteral, Json.literalOf_value? fits]

/-- A text with something other than a closing bracket behind its space. -/
def Opens (characters : List Char) : Prop :=
  ∃ first rest, skipSpace characters = first :: rest ∧ startsValue first = true

theorem opens_cons {first : Char} (starts : startsValue first = true) {spaces : List Char}
    (blank : ∀ c ∈ spaces, isSpace c = true) (rest : List Char) :
    Opens (spaces ++ first :: rest) := by
  have solid : isSpace first = false := by
    simp only [startsValue, Bool.and_eq_true, Bool.not_eq_true'] at starts
    exact starts.1.1
  exact ⟨first, rest, by rw [skipSpace_append blank, skipSpace_cons _ solid], starts⟩

/-- An opening bracket with an item behind it. -/
theorem readValue_array {characters : List Char} (opens : Opens characters) (fuel : Nat) :
    readValue (fuel + 1) ('[' :: characters) =
      (.array (readItems fuel characters).1, (readItems fuel characters).2) := by
  obtain ⟨first, rest, opened, starts⟩ := opens
  rw [readValue, skipSpace_cons _ (by decide)]
  simp only [if_true, if_false, Char.reduceEq]
  rw [← readItems_skipSpace fuel characters, opened]
  split
  · rename_i closed
    cases closed
    cases starts
  · rfl

/-- An opening brace with a member behind it. -/
theorem readValue_object {characters : List Char} (opens : Opens characters) (fuel : Nat) :
    readValue (fuel + 1) ('\x7b' :: characters) =
      (.object (readMembers fuel characters).1, (readMembers fuel characters).2) := by
  obtain ⟨first, rest, opened, starts⟩ := opens
  rw [readValue, skipSpace_cons _ (by decide)]
  simp only [if_true, if_false, Char.reduceEq]
  rw [← readMembers_skipSpace fuel characters, opened]
  split
  · rename_i closed
    cases closed
    cases starts
  · rfl

theorem laidOutItems_opens (layout : Json.Layout) (level : Nat) {item : Json}
    (integral : item.IsIntegral) (others : List Json) (rest : List Char) :
    Opens (Json.laidOutItems layout level (item :: others) ++ rest) := by
  obtain ⟨first, text, starts, valid⟩ := laidOut_starts layout level integral
  cases others with
  | nil =>
    rw [Json.laidOutItems, starts, List.append_assoc, List.cons_append]
    exact opens_cons valid (layout.lineStart_blank level) _
  | cons next others =>
    rw [Json.laidOutItems, starts, List.append_assoc, List.append_assoc, List.cons_append]
    exact opens_cons valid (layout.lineStart_blank level) _

theorem laidOutMembers_opens (layout : Json.Layout) (level : Nat) (member : String × Json)
    (others : List (String × Json)) (rest : List Char) :
    Opens (Json.laidOutMembers layout level (member :: others) ++ rest) := by
  obtain ⟨key, value⟩ := member
  cases others with
  | nil =>
    simp only [Json.laidOutMembers, Json.quoted, List.append_assoc, List.cons_append]
    exact opens_cons (by decide) (layout.lineStart_blank level) _
  | cons next others =>
    simp only [Json.laidOutMembers, Json.quoted, List.append_assoc, List.cons_append]
    exact opens_cons (by decide) (layout.lineStart_blank level) _

/-- A member that can be read, and what comes after it. -/
theorem readMembers_member {spaces : List Char} (blank : ∀ c ∈ spaces, isSpace c = true)
    (key : String) {fuel : Nat} {characters rest : List Char} {value : Reading}
    (first : readValue fuel characters = (value, some rest)) :
    (∀ others, skipSpace rest = ',' :: others →
      readMembers (fuel + 1) (spaces ++ Json.quoted key ++ ':' :: characters) =
        ((some key, value) :: (readMembers fuel others).1, (readMembers fuel others).2)) ∧
    ∀ others, skipSpace rest = '\x7d' :: others →
      readMembers (fuel + 1) (spaces ++ Json.quoted key ++ ':' :: characters) =
        ([(some key, value)], some others) := by
  have written : spaces ++ Json.quoted key ++ ':' :: characters =
      spaces ++ '"' :: (key.toList.flatMap Json.escape ++ '"' :: ':' :: characters) := by
    simp [Json.quoted]
  rw [written, readMembers, skipSpace_append blank, skipSpace_cons '"' (by decide)]
  simp only [Json.readPieces?_escaped, skipSpace_cons ':' (by decide), first, keyOfPieces_pieceOf]
  constructor
  · intro others more
    simp only [more]
  · intro others closed
    simp only [closed]

mutual

/-- The text of a value in any layout is read as that value. -/
theorem readValue_laidOut (layout : Json.Layout) : ∀ (value : Json) (level fuel : Nat)
    (rest : List Char), value.IsIntegral → Json.endsNumber rest = true →
    2 * (Json.laidOut layout level value).length ≤ fuel →
    readValue fuel (Json.laidOut layout level value ++ rest) = (ofJson value, some rest)
  | .null, level, fuel + 1, rest, _, _, _ => by
    rw [Json.laidOut, readValue]
    rfl
  | .bool true, level, fuel + 1, rest, _, _, _ => by
    rw [Json.laidOut, readValue]
    rfl
  | .bool false, level, fuel + 1, rest, _, _, _ => by
    rw [Json.laidOut, readValue]
    rfl
  | .number (.integer value), level, fuel + 1, rest, fits, ends, _ =>
    readValue_integer fits fuel ends
  | .string text, level, fuel + 1, rest, _, _, _ => readValue_string text fuel rest
  | .array [], level, fuel + 1, rest, _, _, _ => by
    rw [Json.laidOut, readValue]
    rfl
  | .array (item :: others), level, fuel + 1, rest, integral, _, enough => by
    have text : Json.laidOut layout level (.array (item :: others)) ++ rest =
        '[' :: (Json.laidOutItems layout (level + 1) (item :: others) ++ layout.lineStart level ++
          ']' :: rest) := by
      simp [Json.laidOut]
    have items := readItems_laidOut layout item others (level + 1) fuel (layout.lineStart level)
      rest integral (layout.lineStart_blank level)
      (by simp only [Json.laidOut, List.length_append, List.length_cons] at enough; omega)
    have opens : Opens (Json.laidOutItems layout (level + 1) (item :: others) ++
        layout.lineStart level ++ ']' :: rest) := by
      rw [List.append_assoc]
      exact laidOutItems_opens layout (level + 1) integral.1 others _
    rw [text, readValue_array opens, items]
    rfl
  | .object [], level, fuel + 1, rest, _, _, _ => by
    rw [Json.laidOut, readValue]
    rfl
  | .object (member :: others), level, fuel + 1, rest, integral, _, enough => by
    have text : Json.laidOut layout level (.object (member :: others)) ++ rest =
        '\x7b' :: (Json.laidOutMembers layout (level + 1) (member :: others) ++
          layout.lineStart level ++ '\x7d' :: rest) := by
      simp [Json.laidOut]
    have members := readMembers_laidOut layout member others (level + 1) fuel
      (layout.lineStart level) rest integral (layout.lineStart_blank level)
      (by simp only [Json.laidOut, List.length_append, List.length_cons] at enough; omega)
    have opens : Opens (Json.laidOutMembers layout (level + 1) (member :: others) ++
        layout.lineStart level ++ '\x7d' :: rest) := by
      rw [List.append_assoc]
      exact laidOutMembers_opens layout (level + 1) member others _
    rw [text, readValue_object opens, members]
    rfl
  | .number (.double _), level, fuel, rest, integral, _, _ => integral.elim
  | value, level, 0, rest, integral, _, enough => by
    obtain ⟨first, others, text, _⟩ := laidOut_starts layout level integral
    rw [text] at enough
    simp at enough

/-- The items of an array are read up to its end. -/
theorem readItems_laidOut (layout : Json.Layout) : ∀ (item : Json) (others : List Json)
    (level fuel : Nat) (spaces rest : List Char), Json.AreIntegral (item :: others) →
    (∀ c ∈ spaces, isSpace c = true) →
    2 * (Json.laidOutItems layout level (item :: others)).length + 1 ≤ fuel →
    readItems fuel (Json.laidOutItems layout level (item :: others) ++ spaces ++ ']' :: rest) =
      (ofItems (item :: others), some rest)
  | item, [], level, fuel + 1, spaces, rest, integral, blank, enough => by
    have first := readValue_laidOut layout item level fuel (spaces ++ ']' :: rest) integral.1
      (endsNumber_append blank (by rfl))
      (by simp only [Json.laidOutItems, List.length_append] at enough; omega)
    rw [Json.laidOutItems, readItems, List.append_assoc, List.append_assoc,
      readValue_append (layout.lineStart_blank level), first]
    simp only [skipSpace_append blank, skipSpace_cons ']' (by decide)]
    rfl
  | item, next :: others, level, fuel + 1, spaces, rest, integral, blank, enough => by
    simp only [Json.laidOutItems, List.length_append, List.length_cons] at enough
    have first := readValue_laidOut layout item level fuel
      (',' :: (Json.laidOutItems layout level (next :: others) ++ spaces ++ ']' :: rest))
      integral.1 (by rfl) (by omega)
    have more := readItems_laidOut layout next others level fuel spaces rest integral.2 blank
      (by omega)
    have text : Json.laidOutItems layout level (item :: next :: others) ++ spaces ++ ']' :: rest =
        layout.lineStart level ++ (Json.laidOut layout level item ++
          ',' :: (Json.laidOutItems layout level (next :: others) ++ spaces ++ ']' :: rest)) := by
      simp [Json.laidOutItems]
    rw [text, readItems, readValue_append (layout.lineStart_blank level), first]
    simp only [skipSpace_cons ',' (by decide), more]
    rfl

/-- The members of an object are read up to its end. -/
theorem readMembers_laidOut (layout : Json.Layout) : ∀ (member : String × Json)
    (others : List (String × Json)) (level fuel : Nat) (spaces rest : List Char),
    Json.MembersAreIntegral (member :: others) → (∀ c ∈ spaces, isSpace c = true) →
    2 * (Json.laidOutMembers layout level (member :: others)).length + 1 ≤ fuel →
    readMembers fuel
        (Json.laidOutMembers layout level (member :: others) ++ spaces ++ '\x7d' :: rest) =
      (ofMembers (member :: others), some rest)
  | (key, value), [], level, fuel + 1, spaces, rest, integral, blank, enough => by
    simp only [Json.laidOutMembers, List.length_append, List.length_cons] at enough
    have first := readValue_laidOut layout value level fuel (spaces ++ '\x7d' :: rest) integral.1
      (endsNumber_append blank (by rfl)) (by omega)
    rw [← readValue_append layout.afterColon_blank] at first
    have text : Json.laidOutMembers layout level [(key, value)] ++ spaces ++ '\x7d' :: rest =
        layout.lineStart level ++ Json.quoted key ++ ':' :: (layout.afterColon ++
          (Json.laidOut layout level value ++ (spaces ++ '\x7d' :: rest))) := by
      simp [Json.laidOutMembers]
    have closed : skipSpace (spaces ++ '\x7d' :: rest) = '\x7d' :: rest := by
      rw [skipSpace_append blank, skipSpace_cons _ (by decide)]
    rw [text, (readMembers_member (layout.lineStart_blank level) key first).2 rest closed]
    rfl
  | (key, value), next :: others, level, fuel + 1, spaces, rest, integral, blank, enough => by
    simp only [Json.laidOutMembers, List.length_append, List.length_cons] at enough
    have first := readValue_laidOut layout value level fuel
      (',' :: (Json.laidOutMembers layout level (next :: others) ++ spaces ++ '\x7d' :: rest))
      integral.1 (by rfl) (by omega)
    rw [← readValue_append layout.afterColon_blank] at first
    have more := readMembers_laidOut layout next others level fuel spaces rest integral.2 blank
      (by omega)
    have text : Json.laidOutMembers layout level ((key, value) :: next :: others) ++ spaces ++
        '\x7d' :: rest =
        layout.lineStart level ++ Json.quoted key ++ ':' :: (layout.afterColon ++
          (Json.laidOut layout level value ++ ',' ::
            (Json.laidOutMembers layout level (next :: others) ++ spaces ++ '\x7d' :: rest))) := by
      simp [Json.laidOutMembers]
    have comma := skipSpace_cons ','
      (by decide) (Json.laidOutMembers layout level (next :: others) ++ spaces ++ '\x7d' :: rest)
    rw [text, (readMembers_member (layout.lineStart_blank level) key first).1 _ comma, more]
    rfl

end

/-- The text of a value in any layout is a whole document. -/
theorem ofText_laidOut (layout : Json.Layout) {value : Json} (integral : value.IsIntegral) :
    ofText (String.ofList (Json.laidOut layout 0 value)) = ⟨ofJson value, true⟩ := by
  have read := readValue_laidOut layout value 0
    (2 * (Json.laidOut layout 0 value).length + 2) [] integral rfl (by omega)
  rw [List.append_nil] at read
  simp only [ofText, String.toList_ofList, read]
  rfl

theorem ofText_compact {value : Json} (integral : value.IsIntegral) :
    ofText value.compact = ⟨ofJson value, true⟩ := by
  rw [Json.compact, Json.compactText_eq 0]
  exact ofText_laidOut .compact integral

theorem ofText_pretty {value : Json} (integral : value.IsIntegral) :
    ofText value.pretty = ⟨ofJson value, true⟩ := by
  rw [Json.pretty, Json.prettyText_eq 0]
  exact ofText_laidOut .pretty integral

end Reading

end WorkerBindings
