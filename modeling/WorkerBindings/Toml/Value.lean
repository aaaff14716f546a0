import WorkerBindings.Toml.Scalar
import WorkerBindings.Toml.Text

/-!
# TOML values

Reading of values and of the keys in front of them. Texts and truth values are kept; of numbers,
times, arrays and inline tables only the form is checked. An inline table is closed: the same rules
about repeated keys hold in it as in a section.
-/

namespace WorkerBindings.Toml

/-- A value. -/
inductive Value where
  | text (value : String)
  | switch (value : Bool)
  /-- A value of another kind, which is read and not kept. -/
  | other
  deriving Repr, DecidableEq

/-- How a table came to be. -/
inductive Origin where
  /-- By a heading of its own. -/
  | heading
  /-- On the way to the table of a longer heading. -/
  | implied
  /-- By keys with dots. -/
  | dotted
  deriving Repr, DecidableEq

/-- What a key stands for. -/
inductive Node where
  | value (value : Value)
  | table (origin : Origin) (entries : List (String × Node))
  /-- The tables of a repeated heading, the latest one first. -/
  | tables (elements : List (List (String × Node)))

/-- The entries of a table. -/
abbrev Entries := List (String × Node)

namespace Entries

/-- Entries with one of them replaced, or added at the end. -/
def put (key : String) (node : Node) : Entries → Entries
  | [] => [(key, node)]
  | (other, old) :: rest =>
    if key = other then (key, node) :: rest else (other, old) :: put key node rest

/-- Set the key at the end of a path, which must not stand for anything yet. A path of several keys
goes through tables that such paths have made, or that are only implied so far, and ends in one of
the former; `mayHold` says whether the table at hand is one to end in. -/
def set? (value : Value) : (path : List String) → (mayHold : Bool) → Entries → Option Entries
  | [], _, _ => none
  | [key], mayHold, entries =>
    if !mayHold || (List.lookup key entries).isSome then none
    else some (entries ++ [(key, .value value)])
  | key :: next :: rest, _, entries =>
    match List.lookup key entries with
    | none => (set? value (next :: rest) true []).map fun inner =>
        put key (.table .dotted inner) entries
    | some (.table .dotted inner) => (set? value (next :: rest) true inner).map fun inner =>
        put key (.table .dotted inner) entries
    | some (.table .implied inner) => (set? value (next :: rest) false inner).map fun inner =>
        put key (.table .implied inner) entries
    | some (.tables (latest :: earlier)) =>
      (set? value (next :: rest) false latest).map fun latest =>
        put key (.tables (latest :: earlier)) entries
    | some _ => none

/-- Set several keys, one after another. -/
def setAll? (members : List (List String × Value)) (entries : Entries) : Option Entries :=
  members.foldlM (fun entries member => set? member.2 member.1 true entries) entries

end Entries

/-- Whether a character is a blank within a line. -/
def isSpace (character : Char) : Bool :=
  character == ' ' || character == '\t'

/-- A text without the blanks at its front. -/
def skipSpaces (characters : List Char) : List Char :=
  characters.dropWhile isSpace

/-- The rest of a comment's line, from its line break on. A comment holds no control characters. -/
def afterComment? (characters : List Char) : Option (List Char) :=
  let rest := characters.dropWhile isPlain
  match rest with
  | [] => some []
  | '\n' :: _ => some rest
  | '\r' :: '\n' :: _ => some rest
  | _ => none

/-- A text without the blanks, line breaks and comments at its front. -/
def skipLines? (inComment : Bool) : List Char → Option (List Char)
  | [] => some []
  | character :: rest =>
    if character = '\n' then skipLines? false rest
    else if character = '\r' then
      if rest.head? == some '\n' then skipLines? false rest else none
    else if inComment then if isPlain character then skipLines? true rest else none
    else if character = '#' then skipLines? true rest
    else if isSpace character then skipLines? false rest
    else some (character :: rest)

/-- Whether a character may stand in a key without quotes. -/
def isBare (character : Char) : Bool :=
  character.isAlphanum || character == '-' || character == '_'

/-- A single key, and what follows it. -/
def readKey? (characters : List Char) : Option (String × List Char) :=
  match characters.span isBare with
  | ([], _) => (readLineText? characters).map fun (key, rest) => (String.ofList key, rest)
  | (key, rest) => some (String.ofList key, rest)

/-- Keys with dots between them, and what follows them. No path has more keys than `fuel`. -/
def readPath? : Nat → List Char → Option (List String × List Char)
  | 0, _ => none
  | fuel + 1, characters => do
    let (key, rest) ← readKey? (skipSpaces characters)
    match skipSpaces rest with
    | '.' :: rest => do
      let (keys, rest) ← readPath? fuel rest
      some (key :: keys, rest)
    | rest => some ([key], rest)

/-- Whether a character may belong to a number, a time or a truth value. -/
def isScalar (character : Char) : Bool :=
  isBare character || character == '+' || character == '.' || character == ':'

/-- The value that a row of characters stands for. -/
def scalarOf? (characters : List Char) : Option Value :=
  if characters == "true".toList then some (.switch true)
  else if characters == "false".toList then some (.switch false)
  else if isNumber characters || isTime characters then some .other
  else none

/-- A value without quotes or brackets, and what follows it. A date may be followed by a time after
a space. -/
def readScalar? (characters : List Char) : Option (Value × List Char) :=
  let (found, rest) := characters.span isScalar
  let (found, rest) :=
    match rest with
    | ' ' :: next :: later =>
      if isDate found && Text.isDigit next then
        let (time, rest) := (next :: later).span isScalar
        (found ++ ' ' :: time, rest)
      else (found, rest)
    | rest => (found, rest)
  (scalarOf? found).map fun value => (value, rest)

/-- A text as a value, and what follows it. -/
def readTextValue? (characters : List Char) : Option (Value × List Char) :=
  (readText? characters).map fun (found, rest) => (.text (String.ofList found), rest)

mutual

/-- A value, and what follows it. At most `nesting` arrays and inline tables may be opened inside
one another, and `fuel` is more than the number of characters. -/
def readValue? : (fuel nesting : Nat) → List Char → Option (Value × List Char)
  | 0, _, _ => none
  | fuel + 1, nesting, characters =>
    match characters, nesting with
    | '[' :: rest, nesting + 1 =>
      (readItems? fuel nesting rest).map fun rest => (.other, rest)
    | '\x7b' :: rest, nesting + 1 =>
      (readMembers? fuel nesting [] rest).map fun rest => (.other, rest)
    | '"' :: _, _ => readTextValue? characters
    | '\'' :: _, _ => readTextValue? characters
    | _, _ => readScalar? characters

/-- What follows the closing bracket of an array of which the next item is due. -/
def readItems? : (fuel nesting : Nat) → List Char → Option (List Char)
  | 0, _, _ => none
  | fuel + 1, nesting, characters => do
    match ← skipLines? false characters with
    | ']' :: rest => some rest
    | characters => do
      let (_, rest) ← readValue? fuel nesting characters
      match ← skipLines? false rest with
      | ',' :: rest => readItems? fuel nesting rest
      | ']' :: rest => some rest
      | _ => none

/-- What follows the closing brace of an inline table of which the next member is due, given its
entries so far. -/
def readMembers? : (fuel nesting : Nat) → Entries → List Char → Option (List Char)
  | 0, _, _, _ => none
  | fuel + 1, nesting, entries, characters => do
    match ← skipLines? false characters with
    | '\x7d' :: rest => some rest
    | characters => do
      let (path, rest) ← readPath? (fuel + 1) characters
      let rest ← after? '=' rest
      let (value, rest) ← readValue? fuel nesting (skipSpaces rest)
      let entries ← Entries.set? value path true entries
      match ← skipLines? false rest with
      | ',' :: rest => readMembers? fuel nesting entries rest
      | '\x7d' :: rest => some rest
      | _ => none

end

/-- The number of arrays and inline tables that may be opened inside one another. -/
def maxNesting : Nat := 80

end WorkerBindings.Toml
