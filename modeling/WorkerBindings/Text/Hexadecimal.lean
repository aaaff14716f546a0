import WorkerBindings.Text.Digits

/-!
# Hexadecimal digits

Digits are read in either case and written in the one that is asked for.
-/

namespace WorkerBindings.Text

/-- The lower-case hexadecimal digit for a number below sixteen. -/
def hexDigit (value : Nat) : Char :=
  if value < 10 then Char.ofNat ('0'.toNat + value) else Char.ofNat ('a'.toNat + (value - 10))

/-- The upper-case hexadecimal digit for a number below sixteen. -/
def upperHexDigit (value : Nat) : Char :=
  if value < 10 then Char.ofNat ('0'.toNat + value) else Char.ofNat ('A'.toNat + (value - 10))

/-- The number that a hexadecimal digit of either case stands for. -/
def hexValue? (character : Char) : Option Nat :=
  if '0' ≤ character ∧ character ≤ '9' then some (character.toNat - '0'.toNat)
  else if 'a' ≤ character ∧ character ≤ 'f' then some (character.toNat - 'a'.toNat + 10)
  else if 'A' ≤ character ∧ character ≤ 'F' then some (character.toNat - 'A'.toNat + 10)
  else none

/-- The number that a row of hexadecimal digits stands for, given the number already read to its
left. -/
def hexNumber? (start : Nat) : List Char → Option Nat
  | [] => some start
  | character :: rest =>
    match hexValue? character with
    | some value => hexNumber? (start * 16 + value) rest
    | none => none

end WorkerBindings.Text
