import WorkerBindings.Text.Hexadecimal

/-!
# TOML strings

The four ways to write a text in TOML. A text is written in the plainest way that needs no escape:
between double quotes, between single quotes, or in a block of three quotes; only where every way
needs escapes are they used. All four ways are read.
-/

namespace WorkerBindings.Toml

/-- The ways to write a text. -/
inductive TextForm where
  /-- Between double quotes, with escapes. -/
  | basic
  /-- Between single quotes, exactly as it is. -/
  | literal
  /-- Between three double quotes, with escapes and line breaks. -/
  | basicBlock
  /-- Between three single quotes, exactly as it is. -/
  | literalBlock
  deriving Repr, DecidableEq

/-- Whether a character can only be written as an escape, whatever the form; the tab and the line
feed need none. -/
def isControl (character : Char) : Bool :=
  (character.toNat < 0x20 || character.toNat == 0x7F) && character != '\t' && character != '\n'

/-- The length of the longest row of one character, given the row that the text continues and the
longest row before it. -/
def longestRow (target : Char) (row longest : Nat) : List Char → Nat
  | [] => longest
  | character :: rest =>
    if character = target then longestRow target (row + 1) (max longest (row + 1)) rest
    else longestRow target 0 longest rest

/-- The length of the longest row of a quote in a text. -/
def quoteRow (quote : Char) (text : List Char) : Nat :=
  longestRow quote 0 0 text

/-- The form in which a text is written. -/
def formOf (text : List Char) : TextForm :=
  let hasControl := text.any isControl
  let hasBackslash := text.contains '\\'
  let hasBreak := text.contains '\n'
  if !hasControl && !hasBackslash && quoteRow '"' text = 0 && !hasBreak then .basic
  else if !hasControl && quoteRow '\'' text = 0 && !hasBreak then .literal
  else if !hasControl && !hasBackslash && quoteRow '"' text ≤ 2 then .basicBlock
  else if !hasControl && quoteRow '\'' text ≤ 2 then .literalBlock
  else if hasBreak then .basicBlock
  else .basic

/-- The text of a character that is no quote, in a form with escapes. -/
def escape (inBlock : Bool) (character : Char) : List Char :=
  if character = '\n' then if inBlock then ['\n'] else ['\\', 'n']
  else if character = '\t' then ['\\', 't']
  else if character = '\r' then ['\\', 'r']
  else if character = '\\' then ['\\', '\\']
  else if character.toNat = 0x08 then ['\\', 'b']
  else if character.toNat = 0x0C then ['\\', 'f']
  else if isControl character then
    ['\\', 'u', '0', '0', Text.upperHexDigit (character.toNat / 16),
      Text.upperHexDigit (character.toNat % 16)]
  else [character]

/-- A text in a form with escapes, without the quotes around it. `row` quotes stand bare right
before it; a quote is escaped where one more bare quote would make the row too long. -/
def escapeFrom (inBlock : Bool) (row : Nat) : List Char → List Char
  | [] => []
  | character :: rest =>
    if character = '"' then
      if row < (if inBlock then 2 else 0) then '"' :: escapeFrom inBlock (row + 1) rest
      else '\\' :: '"' :: escapeFrom inBlock 0 rest
    else escape inBlock character ++ escapeFrom inBlock 0 rest

/-- The line break that a block starts with when its text has line breaks. -/
def blockBreak (text : List Char) : List Char :=
  if text.contains '\n' then ['\n'] else []

/-- A text in one of the forms. -/
def writeAs (text : List Char) : TextForm → List Char
  | .basic => '"' :: escapeFrom false 0 text ++ ['"']
  | .literal => '\'' :: text ++ ['\'']
  | .basicBlock =>
    ['"', '"', '"'] ++ blockBreak text ++ escapeFrom true 0 text ++ ['"', '"', '"']
  | .literalBlock => ['\'', '\'', '\''] ++ blockBreak text ++ text ++ ['\'', '\'', '\'']

/-- A text as it is written. -/
def writeText (text : String) : List Char :=
  writeAs text.toList (formOf text.toList)

/-- A character and what follows it in the text. -/
abbrev ReadText := Option (List Char × List Char)

/-- Put a character in front of a text that was read. -/
def withCharacter (character : Char) (read? : ReadText) : ReadText :=
  read?.map fun (characters, rest) => (character :: characters, rest)

/-- The character with a code, if there is one. -/
def ofCode? (code : Nat) : Option Char :=
  if code.isValidChar then some (Char.ofNat code) else none

/-- The character that a backslash and one more character stand for. -/
def shortEscape? (character : Char) : Option Char :=
  if character = '"' ∨ character = '\\' then some character
  else if character = 'b' then some (Char.ofNat 0x08)
  else if character = 't' then some '\t'
  else if character = 'n' then some '\n'
  else if character = 'f' then some (Char.ofNat 0x0C)
  else if character = 'r' then some '\r'
  else if character = 'e' then some (Char.ofNat 0x1B)
  else none

/-- The number of hexadecimal digits after the letter of an escape. -/
def escapeWidth? (character : Char) : Option Nat :=
  if character = 'x' then some 2
  else if character = 'u' then some 4
  else if character = 'U' then some 8
  else none

/-- The character that an escape stands for, after its backslash, and the length of the escape. -/
def readEscape? : List Char → Option (Char × Nat)
  | [] => none
  | kind :: rest =>
    match shortEscape? kind, escapeWidth? kind with
    | some character, _ => some (character, 1)
    | none, some width => do
      let code ← if rest.length < width then none else Text.hexNumber? 0 (rest.take width)
      let character ← ofCode? code
      some (character, width + 1)
    | none, none => none

/-- Whether a character may stand for itself on one line. -/
def isPlain (character : Char) : Bool :=
  !isControl character && character != '\n'

/-- Whether a backslash is followed by nothing but spaces up to the end of the line. -/
def endsLine (characters : List Char) : Bool :=
  match characters.dropWhile fun character => character == ' ' || character == '\t' with
  | '\n' :: _ => true
  | '\r' :: '\n' :: _ => true
  | _ => false

/-- The text up to the closing double quote, and what follows that. The first `pending` characters
belong to an escape that is already read and are dropped. -/
def readBasic? : List Char → Nat → ReadText
  | [], _ => none
  | _ :: rest, pending + 1 => readBasic? rest pending
  | character :: rest, 0 =>
    if character = '"' then some ([], rest)
    else if character = '\\' then
      match readEscape? rest with
      | some (meant, width) => withCharacter meant (readBasic? rest width)
      | none => none
    else if isPlain character then withCharacter character (readBasic? rest 0)
    else none

/-- The text up to the closing single quote, and what follows that. -/
def readLiteral? : List Char → ReadText
  | [] => none
  | character :: rest =>
    if character = '\'' then some ([], rest)
    else if isPlain character then withCharacter character (readLiteral? rest)
    else none

/-- Whether three quotes at the front close a block: after `row` quotes of text, a fourth one pushes
the closing ones on, but never beyond two. -/
def closes (quote : Char) (row : Nat) : List Char → Bool
  | first :: second :: third :: rest =>
    first == quote && second == quote && third == quote && (rest.head? != some quote || 2 ≤ row)
  | _ => false

/-- What a reader of blocks is doing. -/
inductive BlockState where
  /-- Reading text, after a row of this many quotes. -/
  | text (row : Nat)
  /-- Passing by blank characters after a line that ended in a backslash. -/
  | blanks
  /-- Dropping characters that are already read. -/
  | pending (count : Nat)
  deriving Repr, DecidableEq

/-- The text of a block up to its three closing double quotes, and what follows those. -/
def readBasicBlock? : List Char → BlockState → ReadText
  | [], _ => none
  | _ :: rest, .pending (count + 2) => readBasicBlock? rest (.pending (count + 1))
  | _ :: rest, .pending _ => readBasicBlock? rest (.text 0)
  | character :: rest, state =>
    if state = .blanks ∧ (character = ' ' ∨ character = '\t' ∨ character = '\n') then
      readBasicBlock? rest .blanks
    else if character = '\r' then
      if rest.head? != some '\n' then none
      else if state = .blanks then readBasicBlock? rest .blanks
      else readBasicBlock? rest (.text 0)
    else if character = '"' then
      let row := match state with
        | .text row => row
        | _ => 0
      if closes '"' row (character :: rest) then some ([], rest.drop 2)
      else withCharacter '"' (readBasicBlock? rest (.text (row + 1)))
    else if character = '\\' then
      if endsLine rest then readBasicBlock? rest .blanks
      else
        match readEscape? rest with
        | some (meant, width) => withCharacter meant (readBasicBlock? rest (.pending width))
        | none => none
    else if isControl character then none
    else withCharacter character (readBasicBlock? rest (.text 0))

/-- The text of a block up to its three closing single quotes, and what follows those. `row` single
quotes stand right before the text. -/
def readLiteralBlock? : List Char → Nat → ReadText
  | [], _ => none
  | character :: rest, row =>
    if character = '\r' then
      if rest.head? != some '\n' then none else readLiteralBlock? rest 0
    else if character = '\'' then
      if closes '\'' row (character :: rest) then some ([], rest.drop 2)
      else withCharacter '\'' (readLiteralBlock? rest (row + 1))
    else if isControl character then none
    else withCharacter character (readLiteralBlock? rest 0)

/-- What follows the line break right after the opening of a block. -/
def afterBlockBreak : List Char → List Char
  | '\n' :: rest => rest
  | '\r' :: '\n' :: rest => rest
  | rest => rest

/-- A text on one line, and what follows it. -/
def readLineText? : List Char → ReadText
  | '"' :: rest => readBasic? rest 0
  | '\'' :: rest => readLiteral? rest
  | _ => none

/-- A text in any of the four forms, and what follows it. -/
def readText? : List Char → ReadText
  | '"' :: '"' :: '"' :: rest => readBasicBlock? (afterBlockBreak rest) (.text 0)
  | '\'' :: '\'' :: '\'' :: rest => readLiteralBlock? (afterBlockBreak rest) 0
  | characters => readLineText? characters

end WorkerBindings.Toml
