import WorkerBindings.Text.Digits

/-!
# Decimal digits read back

The digits that are written for a natural number are digits indeed, stand for that number, and
start with a zero only if that is all there is. Padded digits stand for as much of the number as
their width shows. What is read as a signed number is a row of digits with at most one sign.
-/

namespace WorkerBindings.Text

theorem isDigit_digit (value : Nat) : isDigit (digit value) = true := by
  have every : ∀ last < 10, isDigit (Char.ofNat ('0'.toNat + last)) = true := by decide
  exact every (value % 10) (Nat.mod_lt value (by decide))

theorem digitValue_digit (value : Nat) : digitValue (digit value) = value % 10 := by
  have every : ∀ last < 10, digitValue (Char.ofNat ('0'.toNat + last)) = last := by decide
  exact every (value % 10) (Nat.mod_lt value (by decide))

theorem digits_small {value : Nat} (small : value < 10) : digits value = [digit value] := by
  rw [digits, if_pos small]

theorem digits_large {value : Nat} (large : 10 ≤ value) :
    digits value = digits (value / 10) ++ [digit value] := by
  rw [digits, if_neg (Nat.not_lt.mpr large)]

theorem digits_ne_nil (value : Nat) : digits value ≠ [] := by
  rcases Nat.lt_or_ge value 10 with small | large
  · simp [digits_small small]
  · simp [digits_large large]

theorem isDigit_of_mem_digits {value : Nat} {character : Char}
    (member : character ∈ digits value) : isDigit character = true := by
  induction value using digits.induct with
  | case1 value small =>
    rw [digits_small small, List.mem_singleton] at member
    rw [member]
    exact isDigit_digit value
  | case2 value notSmall ih =>
    rw [digits_large (Nat.not_lt.mp notSmall), List.mem_append, List.mem_singleton] at member
    rcases member with earlier | last
    · exact ih earlier
    · rw [last]
      exact isDigit_digit value

theorem digitsValue_append (start : Nat) (first second : List Char) :
    digitsValue start (first ++ second) = digitsValue (digitsValue start first) second :=
  List.foldl_append

/-- The digits of a number stand for it. -/
theorem digitsValue_digits (value : Nat) : digitsValue 0 (digits value) = value := by
  induction value using digits.induct with
  | case1 value small =>
    rw [digits_small small]
    simp only [digitsValue, List.foldl_cons, List.foldl_nil, digitValue_digit]
    omega
  | case2 value notSmall ih =>
    rw [digits_large (Nat.not_lt.mp notSmall), digitsValue_append, ih]
    simp only [digitsValue, List.foldl_cons, List.foldl_nil, digitValue_digit]
    omega

/-- The first digit of a number above zero is not a zero. -/
theorem head?_digits {value : Nat} (positive : 0 < value) : (digits value).head? ≠ some '0' := by
  induction value using digits.induct with
  | case1 value small =>
    have every : ∀ number < 10, 0 < number → digit number ≠ '0' := by decide
    rw [digits_small small]
    simpa using every value small positive
  | case2 value notSmall ih =>
    have large := Nat.not_lt.mp notSmall
    have earlier := ih (by omega)
    rw [digits_large large, List.head?_append]
    cases first : (digits (value / 10)).head? with
    | none => exact absurd (List.head?_eq_none_iff.mp first) (digits_ne_nil _)
    | some character =>
      rw [first] at earlier
      exact earlier

/-- A leading zero stands alone. -/
theorem digits_ne_zero_cons (value : Nat) (second : Char) (rest : List Char) :
    digits value ≠ '0' :: second :: rest := by
  intro leading
  rcases Nat.eq_zero_or_pos value with zero | positive
  · rw [zero, digits_small (by decide)] at leading
    cases leading
  · exact head?_digits positive (by rw [leading]; rfl)

/-- A row of digits is read as the number that it stands for. -/
theorem nat?_of_digits {row : List Char} (nonempty : row ≠ [])
    (digits : ∀ character ∈ row, isDigit character = true) :
    nat? row = some (digitsValue 0 row) := by
  have notEmpty : row.isEmpty = false := List.isEmpty_eq_false_iff.mpr nonempty
  have all : row.all isDigit = true := List.all_eq_true.mpr digits
  simp [nat?, notEmpty, all]

theorem nat?_digits (value : Nat) : nat? (digits value) = some value := by
  rw [nat?_of_digits (digits_ne_nil value) fun _ => isDigit_of_mem_digits, digitsValue_digits]

theorem digitValue_lt {character : Char} (digit : isDigit character = true) :
    digitValue character < 10 := by
  obtain ⟨low, high⟩ : 0x30 ≤ character.toNat ∧ character.toNat ≤ 0x39 := by
    simpa [isDigit, Char.le_def, UInt32.le_iff_toNat_le] using digit
  change character.toNat - 0x30 < 10
  omega

/-- A row of digits stands for a number that its width can show. -/
theorem digitsValue_lt {row : List Char} (digits : ∀ character ∈ row, isDigit character = true)
    (start : Nat) : digitsValue start row < (start + 1) * Nat.pow 10 row.length := by
  induction row generalizing start with
  | nil => exact (Nat.mul_one (start + 1)).symm ▸ Nat.lt_succ_self start
  | cons first rest ih =>
    obtain ⟨isDigit, others⟩ := List.forall_mem_cons.mp digits
    have small := digitValue_lt isDigit
    calc digitsValue start (first :: rest)
        = digitsValue (start * 10 + digitValue first) rest := rfl
      _ < (start * 10 + digitValue first + 1) * Nat.pow 10 rest.length := ih others _
      _ ≤ (start + 1) * 10 * Nat.pow 10 rest.length := Nat.mul_le_mul_right _ (by omega)
      _ = (start + 1) * (Nat.pow 10 rest.length * 10) := by rw [Nat.mul_assoc, Nat.mul_comm 10]

/-- Numbers are told apart by their digits. -/
theorem ofNat_injective : Function.Injective ofNat := by
  intro value other same
  have digits := congrArg (digitsValue 0) (String.ofList_injective same)
  rwa [digitsValue_digits, digitsValue_digits] at digits

@[simp] theorem length_paddedDigits (width value : Nat) :
    (paddedDigits width value).length = width := by
  induction width generalizing value with
  | zero => rfl
  | succ width ih => rw [paddedDigits, List.length_append, ih, List.length_singleton]

theorem isDigit_of_mem_paddedDigits {width value : Nat} {character : Char}
    (member : character ∈ paddedDigits width value) : isDigit character = true := by
  induction width generalizing value with
  | zero => cases member
  | succ width ih =>
    rcases List.mem_append.mp member with earlier | last
    · exact ih earlier
    · rw [List.mem_singleton.mp last]
      exact isDigit_digit value

theorem digitsValue_paddedDigits (width value : Nat) :
    digitsValue 0 (paddedDigits width value) = value % Nat.pow 10 width := by
  induction width generalizing value with
  | zero => exact (Nat.mod_one value).symm
  | succ width ih =>
    have split : value % Nat.pow 10 (width + 1) =
        value % 10 + 10 * (value / 10 % Nat.pow 10 width) := by
      change value % (Nat.pow 10 width * 10) = _
      rw [Nat.mul_comm, Nat.mod_mul]
    rw [paddedDigits, digitsValue_append, ih, split]
    simp only [digitsValue, List.foldl_cons, List.foldl_nil, digitValue_digit]
    omega

/-- A number that fits the width of its digits is read back. -/
theorem nat?_paddedDigits {width value : Nat} (positive : 0 < width)
    (fits : value < Nat.pow 10 width) : nat? (paddedDigits width value) = some value := by
  have nonempty : paddedDigits width value ≠ [] := by
    rw [← List.length_pos_iff, length_paddedDigits]
    exact positive
  rw [nat?_of_digits nonempty fun _ => isDigit_of_mem_paddedDigits, digitsValue_paddedDigits,
    Nat.mod_eq_of_lt fits]

theorem nat?_eq_some_iff {row : List Char} {value : Nat} :
    nat? row = some value ↔
      row ≠ [] ∧ (∀ character ∈ row, isDigit character = true) ∧ digitsValue 0 row = value := by
  constructor
  · intro reads
    unfold nat? at reads
    split at reads
    · cases reads
    · rename_i isRow
      rw [Bool.not_eq_true, Bool.or_eq_false_iff, Bool.not_eq_false'] at isRow
      exact ⟨List.isEmpty_eq_false_iff.mp isRow.1, List.all_eq_true.mp isRow.2,
        Option.some.inj reads⟩
  · rintro ⟨nonempty, digits, rfl⟩
    exact nat?_of_digits nonempty digits

/-- `Spells characters value` says that the characters are a row of digits, behind a sign or without
one, and which integer they stand for. -/
inductive Spells : List Char → Int → Prop where
  | unsigned {row : List Char} {value : Nat} (reads : nat? row = some value) : Spells row value
  | positive {row : List Char} {value : Nat} (reads : nat? row = some value) :
      Spells ('+' :: row) value
  | negative {row : List Char} {value : Nat} (reads : nat? row = some value) :
      Spells ('-' :: row) (-value)

/-- A sign is no digit, so that a row of digits starts with none. -/
theorem nat?_sign {sign : Char} (notDigit : isDigit sign = false) (row : List Char) :
    nat? (sign :: row) = none := by
  simp [nat?, notDigit]

/-- The integer that a text spells, before its range is looked at. -/
def spelled? : List Char → Option Int
  | '-' :: rest => (nat? rest).map fun (magnitude : Nat) => -magnitude
  | '+' :: rest => (nat? rest).map fun (magnitude : Nat) => magnitude
  | rest => (nat? rest).map fun (magnitude : Nat) => magnitude

theorem spelled?_eq_some_iff {characters : List Char} {value : Int} :
    spelled? characters = some value ↔ Spells characters value := by
  constructor
  · intro found
    unfold spelled? at found
    split at found
    · obtain ⟨magnitude, reads, rfl⟩ := Option.map_eq_some_iff.mp found
      exact .negative reads
    · obtain ⟨magnitude, reads, rfl⟩ := Option.map_eq_some_iff.mp found
      exact .positive reads
    · obtain ⟨magnitude, reads, rfl⟩ := Option.map_eq_some_iff.mp found
      exact .unsigned reads
  · intro spells
    cases spells with
    | unsigned reads =>
      unfold spelled?
      split
      · rw [nat?_sign rfl] at reads
        cases reads
      · rw [nat?_sign rfl] at reads
        cases reads
      · rw [reads]
        rfl
    | positive reads => exact congrArg (Option.map _) reads
    | negative reads => exact congrArg (Option.map _) reads

theorem int?_eq_some_iff {low high value : Int} {characters : List Char} :
    int? low high characters = some value ↔
      Spells characters value ∧ low ≤ value ∧ value ≤ high := by
  have unfolded : int? low high characters = (spelled? characters).bind fun value =>
      if low ≤ value ∧ value ≤ high then some value else none := by
    unfold int?
    split
    · rename_i row
      rw [spelled?]
      cases nat? row <;> rfl
    · rename_i row
      rw [spelled?]
      cases nat? row <;> rfl
    · rename_i notNegative notPositive
      rw [spelled?]
      · cases nat? characters <;> rfl
      · exact notNegative
      · exact notPositive
  rw [unfolded, Option.bind_eq_some_iff]
  simp only [spelled?_eq_some_iff, Option.ite_none_right_eq_some, Option.some.injEq]
  constructor
  · rintro ⟨found, spells, inside, rfl⟩
    exact ⟨spells, inside⟩
  · rintro ⟨spells, inside⟩
    exact ⟨value, spells, inside, rfl⟩

end WorkerBindings.Text
