/-!
# UTF-16 code units

A character of the basic plane is one unit; any other is a pair of surrogates that carry twenty bits
of its code, ten in each.
-/

namespace WorkerBindings.Text

/-- The UTF-16 code units of one character. -/
def unitsOf (character : Char) : List Nat :=
  let code := character.toNat
  if code < 0x10000 then [code]
  else [0xD800 + (code - 0x10000) / 0x400, 0xDC00 + (code - 0x10000) % 0x400]

/-- The UTF-16 code units of a text. -/
def units (text : String) : List Nat :=
  text.toList.flatMap unitsOf

/-- The character that a pair of surrogates stands for, if they are a high and a low one. -/
def pairedCharacter? (high low : Nat) : Option Char :=
  if 0xD800 ≤ high ∧ high < 0xDC00 ∧ 0xDC00 ≤ low ∧ low < 0xE000 then
    some (Char.ofNat (0x10000 + (high - 0xD800) * 0x400 + (low - 0xDC00)))
  else none

/-- Whether a unit is half of a pair and stands for no character on its own. -/
def isSurrogate (unit : Nat) : Bool :=
  0xD800 ≤ unit && unit < 0xE000

end WorkerBindings.Text
