/-!
# Numbers written in decimal digits

`digits` writes a natural number without leading zeros and `digitsValue` reads digits back. The
readers of signed numbers accept a range, so that a number that does not fit is refused and never
wrapped.
-/

namespace WorkerBindings.Text

/-- One of the ten ASCII digits. -/
def isDigit (character : Char) : Bool :=
  '0' ≤ character && character ≤ '9'

/-- The number that a digit stands for. -/
def digitValue (character : Char) : Nat :=
  character.toNat - '0'.toNat

/-- The digit that stands for a number below ten. -/
def digit (value : Nat) : Char :=
  Char.ofNat ('0'.toNat + value % 10)

/-- The number that a row of digits stands for, given the number already read to its left. -/
def digitsValue (start : Nat) (characters : List Char) : Nat :=
  characters.foldl (fun value character => value * 10 + digitValue character) start

/-- The decimal digits of a number, at least one. -/
def digits (value : Nat) : List Char :=
  if value < 10 then [digit value] else digits (value / 10) ++ [digit value]
termination_by value

/-- The last `width` decimal digits of a number, zeros included. -/
def paddedDigits : Nat → Nat → List Char
  | 0, _ => []
  | width + 1, value => paddedDigits width (value / 10) ++ [digit value]

/-- The decimal text of a natural number. -/
def ofNat (value : Nat) : String :=
  String.ofList (digits value)

/-- The decimal text of an integer, with a sign only below zero. -/
def ofInt (value : Int) : String :=
  if value < 0 then "-" ++ ofNat value.natAbs else ofNat value.natAbs

/-- A row of one or more digits as a number. -/
def nat? (characters : List Char) : Option Nat :=
  if characters.isEmpty || !characters.all isDigit then none else some (digitsValue 0 characters)

/-- An optional sign and one or more digits, as a number of a range. -/
def int? (low high : Int) (characters : List Char) : Option Int := do
  let value ← match characters with
    | '-' :: rest => (nat? rest).map fun magnitude => -(magnitude : Int)
    | '+' :: rest => (nat? rest).map fun magnitude => (magnitude : Int)
    | rest => (nat? rest).map fun magnitude => (magnitude : Int)
  if low ≤ value ∧ value ≤ high then some value else none

/-- The smallest signed 64-bit number. -/
def int64Min : Int := -9223372036854775808

/-- The largest signed 64-bit number. -/
def int64Max : Int := 9223372036854775807

/-- The largest unsigned 64-bit number. -/
def uint64Max : Nat := 18446744073709551615

end WorkerBindings.Text
