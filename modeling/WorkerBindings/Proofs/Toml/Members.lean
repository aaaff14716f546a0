import Mathlib.Data.List.TakeDrop
import WorkerBindings.Proofs.Toml.Strings
import WorkerBindings.Toml.Document

/-!
# TOML members read back

A document of members alone, each on a line of its own with a bare key, is read as these members. As
long as no key comes twice, its entries are the members in their order.
-/

namespace WorkerBindings.Toml

/-- A key that needs no quotes. -/
def IsBareKey (key : String) : Prop :=
  key.toList ≠ [] ∧ ∀ c ∈ key.toList, isBare c = true

instance (key : String) : Decidable (IsBareKey key) :=
  decidable_of_iff (key.toList ≠ [] ∧ key.toList.all isBare = true)
    (and_congr_right' List.all_eq_true)

/-- A value is written this way: with no blank in front, and read back up to the end of the line. -/
structure Writes (value : Value) (written : List Char) : Prop where
  solid : ∀ rest, skipSpaces (written ++ rest) = written ++ rest
  read : ∀ fuel nesting rest,
    readValue? (fuel + 1) nesting (written ++ '\n' :: rest) = some (value, '\n' :: rest)

theorem skipSpaces_cons {first : Char} (solid : isSpace first = false) (rest : List Char) :
    skipSpaces (first :: rest) = first :: rest :=
  List.dropWhile_cons_of_neg (by simp [solid])

theorem span_append {isPart : Char → Bool} {found : List Char}
    (parts : ∀ c ∈ found, isPart c = true) {first : Char} (ends : isPart first = false)
    (rest : List Char) : (found ++ first :: rest).span isPart = (found, first :: rest) := by
  rw [List.span_eq_takeWhile_dropWhile, List.takeWhile_append_of_pos parts,
    List.dropWhile_append_of_pos parts, List.takeWhile_cons_of_neg (by simp [ends]),
    List.dropWhile_cons_of_neg (by simp [ends]), List.append_nil]

/-- What is written for a text starts with one of the two quotes. -/
theorem writeText_start (text : String) :
    ∃ quote rest, writeText text = quote :: rest ∧ (quote = '"' ∨ quote = '\'') := by
  unfold writeText writeAs
  split
  · exact ⟨_, _, rfl, .inl rfl⟩
  · exact ⟨_, _, rfl, .inr rfl⟩
  · exact ⟨_, _, rfl, .inl rfl⟩
  · exact ⟨_, _, rfl, .inr rfl⟩

theorem readValue?_quote {quote : Char} (isQuote : quote = '"' ∨ quote = '\'') (fuel nesting : Nat)
    (rest : List Char) :
    readValue? (fuel + 1) nesting (quote :: rest) = readTextValue? (quote :: rest) := by
  rcases isQuote with rfl | rfl <;> cases nesting <;> rfl

theorem writes_text (text : String) : Writes (.text text) (writeText text) := by
  obtain ⟨quote, written, shape, isQuote⟩ := writeText_start text
  constructor
  · intro rest
    have solid : isSpace quote = false := by
      rcases isQuote with rfl | rfl <;> decide
    rw [shape]
    exact skipSpaces_cons solid _
  · intro fuel nesting rest
    have ends : EndsText ('\n' :: rest) := ⟨by simp, by simp⟩
    have read := readText?_writeText text ends
    rw [shape, List.cons_append] at read ⊢
    rw [readValue?_quote isQuote, readTextValue?, read]
    simp

/-- A word that stands for a truth value is read up to the end of the line. -/
theorem writes_word {word : List Char} {first : Char} {others : List Char} {value : Bool}
    (shape : word = first :: others)
    (letter : isSpace first = false ∧ first ≠ '[' ∧ first ≠ '\x7b' ∧ first ≠ '"' ∧ first ≠ '\'')
    (scalar : ∀ c ∈ word, isScalar c = true)
    (means : scalarOf? word = some (.switch value)) : Writes (.switch value) word := by
  obtain ⟨solid, notArray, notTable, notDouble, notSingle⟩ := letter
  constructor
  · intro rest
    rw [shape]
    exact skipSpaces_cons solid _
  · intro fuel nesting rest
    have asScalar : readValue? (fuel + 1) nesting (word ++ '\n' :: rest) =
        readScalar? (word ++ '\n' :: rest) := by
      rw [shape, List.cons_append, readValue?.eq_def]
      dsimp only
      split
      · rename_i same
        exact absurd (List.cons.inj same).1 notArray
      · rename_i same
        exact absurd (List.cons.inj same).1 notTable
      · rename_i same
        exact absurd (List.cons.inj same).1 notDouble
      · rename_i same
        exact absurd (List.cons.inj same).1 notSingle
      · rfl
    rw [asScalar, readScalar?, span_append scalar (by decide)]
    change (scalarOf? word).map (fun value => (value, '\n' :: rest)) = _
    rw [means]
    rfl

theorem writes_true : Writes (.switch true) "true".toList :=
  writes_word rfl (by decide) (List.all_eq_true.mp (by decide)) (by decide)

theorem writes_false : Writes (.switch false) "false".toList :=
  writes_word rfl (by decide) (List.all_eq_true.mp (by decide)) (by decide)

/-- The line of a member. -/
def memberLine (key : String) (written : List Char) : List Char :=
  key.toList ++ [' ', '=', ' '] ++ written ++ ['\n']

theorem memberLine_append (key : String) (written rest : List Char) :
    memberLine key written ++ rest =
      key.toList ++ ' ' :: '=' :: ' ' :: (written ++ '\n' :: rest) := by
  simp [memberLine]

/-- A bare key starts with a character that has no meaning of its own. -/
theorem IsBareKey.start {key : String} (bare : IsBareKey key) :
    ∃ first others, key.toList = first :: others ∧ isBare first = true := by
  obtain ⟨first, others, shape⟩ := List.exists_cons_of_ne_nil bare.1
  exact ⟨first, others, shape, bare.2 first (shape ▸ List.mem_cons_self)⟩

theorem ne_of_isBare {first other : Char} (bare : isBare first = true)
    (never : isBare other = false) : first ≠ other := by
  rintro rfl
  rw [bare] at never
  cases never

theorem isSpace_of_isBare {first : Char} (bare : isBare first = true) : isSpace first = false := by
  simp [isSpace, ne_of_isBare bare (by decide : isBare ' ' = false),
    ne_of_isBare bare (by decide : isBare '\t' = false)]

theorem readPath?_key {key : String} (bare : IsBareKey key) (fuel : Nat) {first : Char}
    (solid : isSpace first = false) (notDot : first ≠ '.') (rest : List Char) :
    readPath? (fuel + 1) (key.toList ++ ' ' :: first :: rest) = some ([key], first :: rest) := by
  obtain ⟨start, others, shape, bareStart⟩ := bare.start
  have atKey : skipSpaces (key.toList ++ ' ' :: first :: rest) =
      key.toList ++ ' ' :: first :: rest := by
    rw [shape]
    exact skipSpaces_cons (isSpace_of_isBare bareStart) _
  have keyRead : readKey? (key.toList ++ ' ' :: first :: rest) =
      some (key, ' ' :: first :: rest) := by
    rw [readKey?, span_append bare.2 (by decide)]
    split
    · rename_i same
      exact absurd (Prod.mk.inj same).1 bare.1
    · rename_i same
      cases same
      rw [String.ofList_toList]
  have atFirst : skipSpaces (' ' :: first :: rest) = first :: rest := by
    change skipSpaces (first :: rest) = _
    exact skipSpaces_cons solid rest
  rw [readPath?, atKey, keyRead]
  simp only [Option.bind_eq_bind, Option.bind_some, atFirst]
  split
  · rename_i same
    exact absurd (List.cons.inj same).1 notDot
  · rfl

/-- The line of a member is read as the member. -/
theorem readStatement?_member {key : String} (bare : IsBareKey key) {value : Value}
    {written : List Char} (writes : Writes value written) (fuel : Nat) (rest : List Char) :
    readStatement? (fuel + 1) (memberLine key written ++ rest) =
      some (.member [key] value, '\n' :: rest) := by
  have path := readPath?_key bare fuel (by decide : isSpace '=' = false) (by decide)
    (' ' :: (written ++ '\n' :: rest))
  have atValue : skipSpaces (' ' :: (written ++ '\n' :: rest)) = written ++ '\n' :: rest := by
    change skipSpaces (written ++ '\n' :: rest) = _
    exact writes.solid _
  obtain ⟨start, others, shape, bareStart⟩ := bare.start
  rw [memberLine_append, readStatement?.eq_def]
  split
  · rename_i same
    rw [shape] at same
    exact absurd (List.cons.inj same).1 (ne_of_isBare bareStart (by decide))
  · rw [path]
    simp only [Option.bind_eq_bind, Option.bind_some, after?, if_true, atValue, writes.read]

variable {write : Value → List Char} {members : List (String × Value)}

/-- The lines of members. -/
def memberLines (write : Value → List Char) (members : List (String × Value)) : List Char :=
  members.flatMap fun member => memberLine member.1 (write member.2)

/-- The members can be written line by line. -/
def AreWritten (write : Value → List Char) (members : List (String × Value)) : Prop :=
  ∀ member ∈ members, IsBareKey member.1 ∧ Writes member.2 (write member.2)

theorem skipLines?_bare {first : Char} (bare : isBare first = true) (rest : List Char) :
    skipLines? false (first :: rest) = some (first :: rest) := by
  rw [skipLines?, if_neg (ne_of_isBare bare (by decide)), if_neg (ne_of_isBare bare (by decide)),
    if_neg Bool.false_ne_true, if_neg (ne_of_isBare bare (by decide)),
    if_neg (by simp [isSpace_of_isBare bare])]

/-- The lines of members are read as the members. -/
theorem readStatements?_members (written : AreWritten write members) {fuel : Nat}
    (enough : members.length < fuel) : readStatements? fuel (memberLines write members) =
      some (members.map fun member => .member [member.1] member.2) := by
  induction members generalizing fuel with
  | nil =>
    obtain ⟨fuel, rfl⟩ := Nat.exists_eq_add_one_of_ne_zero (Nat.ne_of_gt enough)
    rfl
  | cons member rest ih =>
    obtain ⟨fuel, rfl⟩ := Nat.exists_eq_add_one_of_ne_zero (Nat.ne_zero_of_lt enough)
    obtain ⟨⟨bare, writes⟩, others⟩ := List.forall_mem_cons.mp written
    have statement := readStatement?_member bare writes fuel (memberLines write rest)
    have later := ih others (Nat.lt_of_succ_lt_succ enough)
    obtain ⟨start, more, shape, bareStart⟩ := bare.start
    have atMember : memberLine member.1 (write member.2) ++ memberLines write rest =
        start :: (more ++ ' ' :: '=' :: ' ' ::
          (write member.2 ++ '\n' :: memberLines write rest)) := by
      rw [memberLine_append, shape, List.cons_append]
    have lines : memberLines write (member :: rest) =
        memberLine member.1 (write member.2) ++ memberLines write rest := by
      simp [memberLines]
    rw [atMember] at statement
    rw [lines, atMember, readStatements?, skipLines?_bare bareStart]
    simp only [Option.bind_eq_bind, Option.bind_some, statement]
    change (readStatements? fuel (memberLines write rest)).bind _ = _
    rw [later]
    rfl

theorem sectionsOf_members (heading : Heading) (before : List (List String × Value))
    (members : List (String × Value)) :
    sectionsOf heading before (members.map fun member => .member [member.1] member.2) =
      [⟨heading, before.reverse ++ members.map fun member => ([member.1], member.2)⟩] := by
  induction members generalizing before with
  | nil => simp [sectionsOf]
  | cons member rest ih =>
    rw [List.map_cons, sectionsOf, ih]
    simp

/-- Members of different keys are set one after another. -/
theorem setAll?_members {entries : Entries} (distinct : (members.map Prod.fst).Nodup)
    (free : ∀ member ∈ members, entries.lookup member.1 = none) :
    Entries.setAll? (members.map fun member => ([member.1], member.2)) entries =
      some (entries ++ members.map fun member => (member.1, .value member.2)) := by
  induction members generalizing entries with
  | nil => simp [Entries.setAll?]
  | cons member rest ih =>
    obtain ⟨freeHere, freeLater⟩ := List.forall_mem_cons.mp free
    obtain ⟨new, distinct⟩ := List.nodup_cons.mp distinct
    have set : Entries.set? member.2 [member.1] true entries =
        some (entries ++ [(member.1, .value member.2)]) := by
      rw [Entries.set?, freeHere]
      rfl
    have free : ∀ other ∈ rest,
        (entries ++ [(member.1, Node.value member.2)]).lookup other.1 = none := by
      intro other isOther
      have differs : (other.1 == member.1) = false := by
        rw [beq_eq_false_iff_ne]
        exact fun same => new (same ▸ List.mem_map_of_mem isOther)
      rw [List.lookup_append, freeLater other isOther, List.lookup_cons, differs]
      rfl
    have later := ih distinct free
    unfold Entries.setAll? at later ⊢
    rw [List.map_cons, List.foldlM_cons, set]
    change List.foldlM _ _ _ = _
    rw [later, List.map_cons, List.append_assoc, List.singleton_append]

/-- A document of members is read as one entry for each of them. -/
theorem entriesOf?_members (written : AreWritten write members)
    (distinct : (members.map Prod.fst).Nodup) :
    entriesOf? (String.ofList (memberLines write members)) =
      some (members.map fun member => (member.1, .value member.2)) := by
  have unmarked : withoutMark (memberLines write members) = memberLines write members := by
    match members, written with
    | [], _ => rfl
    | member :: rest, written =>
      obtain ⟨start, more, shape, bareStart⟩ := (written member List.mem_cons_self).1.start
      have lines : memberLines write (member :: rest) =
          start :: (more ++ [' ', '=', ' '] ++ write member.2 ++ ['\n'] ++
            memberLines write rest) := by
        simp [memberLines, memberLine, shape]
      rw [lines, withoutMark, if_neg (ne_of_isBare bareStart (by decide))]
  have enough : members.length < (memberLines write members).length + 1 := by
    have bound : ∀ members : List (String × Value),
        members.length ≤ (memberLines write members).length := by
      intro members
      induction members with
      | nil => exact Nat.zero_le _
      | cons member rest ih =>
        simp only [memberLines, memberLine, List.flatMap_cons, List.length_append,
          List.length_cons] at ih ⊢
        omega
    exact Nat.lt_succ_of_le (bound members)
  rw [entriesOf?, String.toList_ofList, unmarked, readStatements?_members written enough]
  simp only [Option.bind_eq_bind, Option.bind_some, sectionsOf_members, List.foldlM_cons,
    List.foldlM_nil, addSection?, List.reverse_nil, List.nil_append,
    setAll?_members distinct (fun _ _ => List.lookup_nil)]
  rfl

end WorkerBindings.Toml
