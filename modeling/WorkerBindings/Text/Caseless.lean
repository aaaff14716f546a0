/-!
# Comparison that ignores the case of ASCII letters

Only `A` to `Z` and `a` to `z` are paired; every other character is equal to itself alone, so that
no accented or foreign letter is ever taken for an ASCII one.
-/

namespace WorkerBindings.Text

/-- The lower-case partner of an ASCII capital, any other character itself. -/
def asciiLower (character : Char) : Char :=
  if 'A' ≤ character ∧ character ≤ 'Z' then Char.ofNat (character.toNat + 32) else character

/-- The lower-case form of the ASCII letters of a text. -/
def asciiLowercase (text : String) : String :=
  String.ofList (text.toList.map asciiLower)

/-- Equality of two texts up to the case of their ASCII letters. -/
def sameIgnoringCase (left right : String) : Bool :=
  left.toList.map asciiLower == right.toList.map asciiLower

end WorkerBindings.Text
