/-!
# Blank characters and trimmed text

`isBlank` is the Unicode property White_Space. Trimming removes blank characters from both ends of a
text and never from its inside, and a text is blank when nothing is left of it.
-/

namespace WorkerBindings.Text

/-- Membership in the Unicode property White_Space, all twenty-five characters of it. -/
def isBlank (character : Char) : Bool :=
  let code := character.toNat
  (0x09 ≤ code && code ≤ 0x0D) || code == 0x20 || code == 0x85 || code == 0xA0 || code == 0x1680 ||
    (0x2000 ≤ code && code ≤ 0x200A) || code == 0x2028 || code == 0x2029 || code == 0x202F ||
    code == 0x205F || code == 0x3000

/-- `characters` without the blank characters at its two ends. -/
def trimCharacters (characters : List Char) : List Char :=
  ((characters.dropWhile isBlank).reverse.dropWhile isBlank).reverse

/-- `text` without the blank characters at its two ends. -/
def trim (text : String) : String :=
  String.ofList (trimCharacters text.toList)

/-- A text is blank when every character of it is. -/
def isBlankText (text : String) : Bool :=
  text.toList.all isBlank

/-- The trimmed text, unless it is blank. -/
def nonBlank? (text : String) : Option String :=
  if isBlankText text then none else some (trim text)

end WorkerBindings.Text
