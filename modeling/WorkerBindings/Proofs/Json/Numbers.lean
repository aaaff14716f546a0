import Mathlib.Data.List.TakeDrop
import WorkerBindings.Json.Reading
import WorkerBindings.Json.Text
import WorkerBindings.Proofs.Text.Digits

/-!
# Integers read back

An integer of 64 bits, with or without a sign, is read back from its digits, provided that what
follows could not belong to the same literal.
-/

namespace WorkerBindings

namespace Json

/-- The integers that are read as integers and not as doubles. -/
def fitsInteger (value : Int) : Prop :=
  Text.int64Min ≤ value ∧ value ≤ Text.uint64Max

/-- Whether a text cannot go on a number literal that ends before it. -/
def endsNumber : List Char → Bool
  | [] => true
  | next :: _ => !Text.isDigit next && next != '.' && next != 'e' && next != 'E'

theorem readDigits?_append {found rest : List Char} (digits : ∀ c ∈ found, Text.isDigit c = true)
    (nonempty : found ≠ []) (ends : endsNumber rest = true) :
    readDigits? (found ++ rest) = some (found, rest) := by
  have spanned : (found ++ rest).span Text.isDigit = (found, rest) := by
    rw [List.span_eq_takeWhile_dropWhile, List.takeWhile_append_of_pos digits,
      List.dropWhile_append_of_pos digits]
    cases rest with
    | nil => simp
    | cons next others =>
      simp only [endsNumber, Bool.and_eq_true, Bool.not_eq_true'] at ends
      simp [ends.1.1.1]
  unfold readDigits?
  rw [spanned]
  cases found with
  | nil => exact absurd rfl nonempty
  | cons first others => rfl

theorem readWhole?_digits (magnitude : Nat) {rest : List Char} (ends : endsNumber rest = true) :
    readWhole? (Text.digits magnitude ++ rest) = some (Text.digits magnitude, rest) := by
  have found := readDigits?_append (fun _ member => Text.isDigit_of_mem_digits member)
    (Text.digits_ne_nil magnitude) ends
  unfold readWhole?
  rw [found]
  split
  · rename_i second others left same
    simp only [Option.some.injEq, Prod.mk.injEq] at same
    exact absurd same.1 (Text.digits_ne_zero_cons magnitude second others)
  · rfl

theorem readMagnitude?_digits (negative : Bool) (magnitude : Nat) {rest : List Char}
    (ends : endsNumber rest = true) :
    readMagnitude? negative (Text.digits magnitude ++ rest) =
      some (⟨negative, Text.digits magnitude, none, none⟩, rest) := by
  have noFraction : readFraction? rest = some (none, rest) := by
    cases rest with
    | nil => rfl
    | cons next others =>
      simp only [endsNumber, Bool.and_eq_true, bne_iff_ne] at ends
      unfold readFraction?
      split
      · rename_i same
        cases same
        exact absurd rfl ends.1.1.2
      · rfl
  have noExponent : readExponent? rest = some (none, rest) := by
    cases rest with
    | nil => rfl
    | cons next others =>
      simp only [endsNumber, Bool.and_eq_true, bne_iff_ne] at ends
      simp [readExponent?, ends.1.2, ends.2]
  simp [readMagnitude?, readWhole?_digits magnitude ends, noFraction, noExponent]

theorem toList_ofNat (value : Nat) : (Text.ofNat value).toList = Text.digits value :=
  String.toList_ofList

theorem numberText_natural {value : Int} (natural : 0 ≤ value) :
    numberText (.integer value) = Text.digits value.natAbs := by
  rw [numberText, Text.ofInt, if_neg (Int.not_lt.mpr natural), toList_ofNat]

theorem numberText_negative {value : Int} (negative : value < 0) :
    numberText (.integer value) = '-' :: Text.digits value.natAbs := by
  rw [numberText, Text.ofInt, if_pos negative, String.toList_append, toList_ofNat]
  rfl

/-- The literal that an integer is written as. -/
def literalOf (value : Int) : NumberLiteral :=
  ⟨decide (value < 0), Text.digits value.natAbs, none, none⟩

/-- An integer is read back as the literal that it is written as. -/
theorem readNumber?_numberText (value : Int) {rest : List Char} (ends : endsNumber rest = true) :
    readNumber? (numberText (.integer value) ++ rest) = some (literalOf value, rest) := by
  rcases Int.lt_or_le value 0 with negative | natural
  · rw [numberText_negative negative, List.cons_append]
    simp only [readNumber?]
    rw [readMagnitude?_digits true value.natAbs ends, literalOf, decide_eq_true negative]
  · have notNegative : decide (value < 0) = false := decide_eq_false (Int.not_lt.mpr natural)
    rw [numberText_natural natural, literalOf, notNegative]
    have first : ∀ others, Text.digits value.natAbs ++ rest ≠ '-' :: others := by
      intro others same
      cases found : Text.digits value.natAbs with
      | nil => exact absurd found (Text.digits_ne_nil _)
      | cons character characters =>
        have isDigit : Text.isDigit character = true :=
          Text.isDigit_of_mem_digits (found ▸ List.mem_cons_self)
        rw [found, List.cons_append, List.cons.injEq] at same
        rw [same.1] at isDigit
        cases isDigit
    unfold readNumber?
    split
    · rename_i others same
      exact absurd same (first others)
    · exact readMagnitude?_digits false value.natAbs ends

theorem literalOf_value? {value : Int} (fits : fitsInteger value) :
    (literalOf value).value? = some (.integer value) := by
  obtain ⟨low, high⟩ := fits
  simp only [Text.int64Min, Text.uint64Max] at low high
  unfold literalOf NumberLiteral.value?
  simp only [Text.digitsValue_digits, Option.isNone_none, Bool.and_true, Bool.true_and]
  rcases Int.lt_or_le value 0 with negative | natural
  · have magnitude : -(value.natAbs : Int) = value := by omega
    have notZero : value.natAbs ≠ 0 := by omega
    rw [decide_eq_true negative, magnitude]
    simp [notZero, Text.int64Min, low]
  · have magnitude : (value.natAbs : Int) = value := by omega
    have bounded : value.natAbs ≤ 18446744073709551615 := by omega
    rw [decide_eq_false (Int.not_lt.mpr natural)]
    simp [Text.uint64Max, bounded, magnitude]

end Json

end WorkerBindings
