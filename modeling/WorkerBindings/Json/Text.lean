import WorkerBindings.Double.Layout
import WorkerBindings.Json.Basic
import WorkerBindings.Text.Hexadecimal

/-!
# JSON text

`compact` writes a value without any space, `pretty` one item or member a line with two spaces for
each level. Both escape quotes, backslashes and control characters in strings and leave every other
character as it is.
-/

namespace WorkerBindings.Json

/-- One character inside a JSON string. -/
def escape (character : Char) : List Char :=
  if character = '"' then ['\\', '"']
  else if character = '\\' then ['\\', '\\']
  else if 0x20 ≤ character.toNat then [character]
  else if character.toNat = 0x08 then ['\\', 'b']
  else if character.toNat = 0x09 then ['\\', 't']
  else if character.toNat = 0x0A then ['\\', 'n']
  else if character.toNat = 0x0C then ['\\', 'f']
  else if character.toNat = 0x0D then ['\\', 'r']
  else ['\\', 'u', '0', '0', Text.hexDigit (character.toNat / 16),
    Text.hexDigit (character.toNat % 16)]

/-- A text as a JSON string, quotes included. -/
def quoted (text : String) : List Char :=
  '"' :: text.toList.flatMap escape ++ ['"']

/-- A JSON number: an integer in digits, a double in the layout for documents. -/
def numberText : Number → List Char
  | .integer value => (Text.ofInt value).toList
  | .double value => Double.json.write value

mutual

/-- A value without any space. -/
def compactText : Json → List Char
  | .null => ['n', 'u', 'l', 'l']
  | .bool true => ['t', 'r', 'u', 'e']
  | .bool false => ['f', 'a', 'l', 's', 'e']
  | .number value => numberText value
  | .string value => quoted value
  | .array items => '[' :: compactItems items ++ [']']
  | .object members => '\x7b' :: compactMembers members ++ ['\x7d']

/-- Items with commas between them. -/
def compactItems : List Json → List Char
  | [] => []
  | [item] => compactText item
  | item :: next :: rest => compactText item ++ ',' :: compactItems (next :: rest)

/-- Members with commas between them. -/
def compactMembers : List (String × Json) → List Char
  | [] => []
  | [(key, value)] => quoted key ++ ':' :: compactText value
  | (key, value) :: next :: rest =>
    quoted key ++ ':' :: compactText value ++ ',' :: compactMembers (next :: rest)

end

/-- A line break and the spaces of one level. -/
def lineBreak (level : Nat) : List Char :=
  '\n' :: List.replicate (2 * level) ' '

mutual

/-- A value over several lines; `level` is that of the line it starts on. -/
def prettyText (level : Nat) : Json → List Char
  | .null => ['n', 'u', 'l', 'l']
  | .bool true => ['t', 'r', 'u', 'e']
  | .bool false => ['f', 'a', 'l', 's', 'e']
  | .number value => numberText value
  | .string value => quoted value
  | .array [] => ['[', ']']
  | .array items => '[' :: prettyItems (level + 1) items ++ lineBreak level ++ [']']
  | .object [] => ['\x7b', '\x7d']
  | .object members =>
    '\x7b' :: prettyMembers (level + 1) members ++ lineBreak level ++ ['\x7d']

/-- Items on lines of their own with commas between them. -/
def prettyItems (level : Nat) : List Json → List Char
  | [] => []
  | [item] => lineBreak level ++ prettyText level item
  | item :: next :: rest =>
    lineBreak level ++ prettyText level item ++ ',' :: prettyItems level (next :: rest)

/-- Members on lines of their own with commas between them. -/
def prettyMembers (level : Nat) : List (String × Json) → List Char
  | [] => []
  | [(key, value)] => lineBreak level ++ quoted key ++ ':' :: ' ' :: prettyText level value
  | (key, value) :: next :: rest =>
    lineBreak level ++ quoted key ++ ':' :: ' ' :: prettyText level value ++
      ',' :: prettyMembers level (next :: rest)

end

/-- The text of a value without any space. -/
def compact (value : Json) : String :=
  String.ofList (compactText value)

/-- The text of a value over several lines. -/
def pretty (value : Json) : String :=
  String.ofList (prettyText 0 value)

end WorkerBindings.Json
