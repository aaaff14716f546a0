import WorkerBindings.Toml.Value

/-!
# TOML documents

A document is a list of sections, each of them a heading with the members under it. Headings may
build on one another; a table that has been given a heading, or that keys with dots have made, is
not given another one.
-/

namespace WorkerBindings.Toml

/-- What comes before the members of a section. -/
inductive Heading where
  /-- Nothing: the members at the top of a document. -/
  | top
  /-- The heading of a table. -/
  | table (path : List String)
  /-- The heading of one more table in a row. -/
  | element (path : List String)
  deriving Repr, DecidableEq

/-- A line of a document that says something. -/
inductive Statement where
  | heading (heading : Heading)
  | member (path : List String) (value : Value)
  deriving Repr, DecidableEq

/-- A heading with its members. -/
structure Section where
  heading : Heading
  members : List (List String × Value)
  deriving Repr, DecidableEq

/-- What follows the end of a line on which nothing more but a comment may stand. -/
def afterLine? (characters : List Char) : Option (List Char) := do
  let rest ← match skipSpaces characters with
    | '#' :: rest => afterComment? rest
    | rest => some rest
  match rest with
  | [] => some []
  | '\n' :: rest => some rest
  | '\r' :: '\n' :: rest => some rest
  | _ => none

/-- A heading after its opening bracket, and what follows it. -/
def readHeading? (fuel : Nat) : List Char → Option (Heading × List Char)
  | '[' :: rest => do
    let (path, rest) ← readPath? fuel rest
    let rest ← after? ']' rest
    let rest ← after? ']' rest
    some (.element path, rest)
  | characters => do
    let (path, rest) ← readPath? fuel characters
    let rest ← after? ']' rest
    some (.table path, rest)

/-- A statement, and what follows it on its line. -/
def readStatement? (fuel : Nat) : List Char → Option (Statement × List Char)
  | '[' :: rest => (readHeading? fuel rest).map fun (heading, rest) => (.heading heading, rest)
  | characters => do
    let (path, rest) ← readPath? fuel characters
    let rest ← after? '=' rest
    let (value, rest) ← readValue? fuel maxNesting (skipSpaces rest)
    some (.member path value, rest)

/-- All statements of a text; `fuel` is more than the number of characters. -/
def readStatements? : Nat → List Char → Option (List Statement)
  | 0, _ => none
  | fuel + 1, characters => do
    match ← skipLines? false characters with
    | [] => some []
    | characters => do
      let (statement, rest) ← readStatement? (fuel + 1) characters
      let rest ← afterLine? rest
      let others ← readStatements? fuel rest
      some (statement :: others)

/-- Statements as sections. -/
def sectionsOf (heading : Heading) (members : List (List String × Value)) :
    List Statement → List Section
  | [] => [⟨heading, members.reverse⟩]
  | .member path value :: rest => sectionsOf heading ((path, value) :: members) rest
  | .heading next :: rest => ⟨heading, members.reverse⟩ :: sectionsOf next [] rest

/-- Change what the last key of a heading stands for. The keys before it lead through tables, which
are made where they are missing, and through the latest table of a row. -/
def update? (change : Option Node → Option Node) : List String → Entries → Option Entries
  | [], _ => none
  | [key], entries => (change (List.lookup key entries)).map fun node => entries.put key node
  | key :: next :: rest, entries =>
    match List.lookup key entries with
    | none => (update? change (next :: rest) []).map fun inner =>
        entries.put key (.table .implied inner)
    | some (.table origin inner) => (update? change (next :: rest) inner).map fun inner =>
        entries.put key (.table origin inner)
    | some (.tables (latest :: earlier)) => (update? change (next :: rest) latest).map fun latest =>
        entries.put key (.tables (latest :: earlier))
    | some _ => none

/-- The table of a heading: a new one, or one that was only implied before. -/
def fillTable? (members : List (List String × Value)) : Option Node → Option Node
  | none => (Entries.setAll? members []).map (.table .heading ·)
  | some (.table .implied entries) => (Entries.setAll? members entries).map (.table .heading ·)
  | some _ => none

/-- A row of tables with one more table in it. -/
def addElement? (members : List (List String × Value)) : Option Node → Option Node
  | none => (Entries.setAll? members []).map fun entries => .tables [entries]
  | some (.tables elements) =>
    (Entries.setAll? members []).map fun entries => .tables (entries :: elements)
  | some _ => none

/-- The entries of a document with one more section. -/
def addSection? (entries : Entries) (part : Section) : Option Entries :=
  match part.heading with
  | .top => entries.setAll? part.members
  | .table path => update? (fillTable? part.members) path entries
  | .element path => update? (addElement? part.members) path entries

/-- The mark that may stand at the front of a document and means nothing. -/
def byteOrderMark : Char := '\ufeff'

/-- A text without a byte order mark. -/
def withoutMark : List Char → List Char
  | [] => []
  | character :: rest => if character = byteOrderMark then rest else character :: rest

/-- The entries of the document that a text holds. -/
def entriesOf? (text : String) : Option Entries := do
  let characters := withoutMark text.toList
  let statements ← readStatements? (characters.length + 1) characters
  (sectionsOf .top [] statements).foldlM addSection? []

end WorkerBindings.Toml
