import WorkerBindings.Json.Literal

/-!
# JSON text as it is read

A `Reading` is what a text holds from its left end up to the point, if there is one, where it stops
being JSON. That point is marked by `cut` in the place of the value that should stand there, so that
whoever walks a reading from the left meets faults in the order of the text. Whether a fault matters
is for the walker to say: an ignored part may hold literals without a value, but never a `cut`.
-/

namespace WorkerBindings

/-- A JSON text as far as it can be read. -/
inductive Reading where
  | null
  | bool (value : Bool)
  | number (value : Number)
  | string (value : String)
  /-- A number or string that obeys the grammar and has no value. -/
  | valueless
  | array (items : List Reading)
  /-- The members in order; a key without a value is `none`. -/
  | object (members : List (Option String × Reading))
  /-- The text stops being JSON here. -/
  | cut
  deriving Repr

namespace Reading

/-- What follows the spaces, tabs and line ends at the front. -/
def skipSpace (characters : List Char) : List Char :=
  characters.dropWhile fun character =>
    character == ' ' || character == '\t' || character == '\n' || character == '\r'

/-- The value of a string literal. -/
def ofPieces (pieces : List Json.Piece) : Reading :=
  match Json.joinPieces? pieces with
  | some characters => .string (String.ofList characters)
  | none => .valueless

/-- The key that a string literal stands for. -/
def keyOfPieces (pieces : List Json.Piece) : Option String :=
  (Json.joinPieces? pieces).map String.ofList

/-- The value of a number literal. -/
def ofLiteral (literal : Json.NumberLiteral) : Reading :=
  match literal.value? with
  | some value => .number value
  | none => .valueless

/-- A fixed word, of which the first letter has been seen. -/
def readWord (word : List Char) (meaning : Reading) (characters : List Char) :
    Reading × Option (List Char) :=
  if word.isPrefixOf characters then (meaning, some (characters.drop word.length)) else (.cut, none)

mutual

/-- One value and what follows it; nothing follows a cut. `fuel` bounds the calls, of which each but
the innermost takes a character. -/
def readValue : Nat → List Char → Reading × Option (List Char)
  | 0, _ => (.cut, none)
  | fuel + 1, characters =>
    match skipSpace characters with
    | [] => (.cut, none)
    | character :: rest =>
      if character = '"' then
        match Json.readPieces? rest with
        | some (pieces, rest) => (ofPieces pieces, some rest)
        | none => (.cut, none)
      else if character = '[' then
        match skipSpace rest with
        | ']' :: rest => (.array [], some rest)
        | rest =>
          let (items, rest?) := readItems fuel rest
          (.array items, rest?)
      else if character = '\x7b' then
        match skipSpace rest with
        | '\x7d' :: rest => (.object [], some rest)
        | rest =>
          let (members, rest?) := readMembers fuel rest
          (.object members, rest?)
      else if character = 'n' then readWord ['u', 'l', 'l'] .null rest
      else if character = 't' then readWord ['r', 'u', 'e'] (.bool true) rest
      else if character = 'f' then readWord ['a', 'l', 's', 'e'] (.bool false) rest
      else
        match Json.readNumber? (character :: rest) with
        | some (literal, rest) => (ofLiteral literal, some rest)
        | none => (.cut, none)

/-- The items of an array that is not empty, up to its closing bracket. -/
def readItems : Nat → List Char → List Reading × Option (List Char)
  | 0, _ => ([.cut], none)
  | fuel + 1, characters =>
    match readValue fuel characters with
    | (item, none) => ([item], none)
    | (item, some rest) =>
      match skipSpace rest with
      | ',' :: rest =>
        let (items, rest?) := readItems fuel rest
        (item :: items, rest?)
      | ']' :: rest => ([item], some rest)
      | _ => ([item, .cut], none)

/-- The members of an object that is not empty, up to its closing brace. -/
def readMembers : Nat → List Char → List (Option String × Reading) × Option (List Char)
  | 0, _ => ([(some "", .cut)], none)
  | fuel + 1, characters =>
    match skipSpace characters with
    | '"' :: rest =>
      match Json.readPieces? rest with
      | none => ([(some "", .cut)], none)
      | some (pieces, rest) =>
        match skipSpace rest with
        | ':' :: rest =>
          match readValue fuel rest with
          | (value, none) => ([(keyOfPieces pieces, value)], none)
          | (value, some rest) =>
            match skipSpace rest with
            | ',' :: rest =>
              let (members, rest?) := readMembers fuel rest
              ((keyOfPieces pieces, value) :: members, rest?)
            | '\x7d' :: rest => ([(keyOfPieces pieces, value)], some rest)
            | _ => ([(keyOfPieces pieces, value), (some "", .cut)], none)
        | _ => ([(keyOfPieces pieces, .cut)], none)
    | _ => ([(some "", .cut)], none)

end

mutual

/-- Whether the text stops being JSON somewhere in a reading. -/
def hasCut : Reading → Bool
  | .cut => true
  | .array items => itemsHaveCut items
  | .object members => membersHaveCut members
  | _ => false

/-- Whether one of several items holds a cut. -/
def itemsHaveCut : List Reading → Bool
  | [] => false
  | item :: rest => item.hasCut || itemsHaveCut rest

/-- Whether one of several members holds a cut. -/
def membersHaveCut : List (Option String × Reading) → Bool
  | [] => false
  | (_, value) :: rest => value.hasCut || membersHaveCut rest

end

/-- A text as read: its value, and whether only blank space follows. -/
structure Document where
  value : Reading
  complete : Bool

/-- Read a whole text. -/
def ofText (text : String) : Document :=
  let characters := text.toList
  match readValue (2 * characters.length + 2) characters with
  | (value, some rest) => ⟨value, (skipSpace rest).isEmpty⟩
  | (value, none) => ⟨value, false⟩

end Reading

end WorkerBindings
