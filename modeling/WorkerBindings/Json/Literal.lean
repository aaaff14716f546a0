import WorkerBindings.Double.Basic
import WorkerBindings.Json.Basic
import WorkerBindings.Text.Hexadecimal
import WorkerBindings.Text.Units

/-!
# JSON literals

The two literals that have an inside: strings and numbers. Each is first taken apart by its grammar
and then given its value. A literal can obey the grammar and still have no value: a string with half
of a surrogate pair, or a number beyond the largest double.
-/

namespace WorkerBindings.Json

/-- One element of a string literal: a character, or the code unit of a `\u` escape. -/
inductive Piece where
  | plain (character : Char)
  | unit (value : Nat)
  deriving Repr, DecidableEq

/-- The code unit that four hexadecimal digits stand for. -/
def hexUnit? (first second third fourth : Char) : Option Nat :=
  Text.hexNumber? 0 [first, second, third, fourth]

/-- The character that a backslash and one more character stand for. -/
def shortEscape? (character : Char) : Option Char :=
  if character = '"' ∨ character = '\\' ∨ character = '/' then some character
  else if character = 'b' then some (Char.ofNat 0x08)
  else if character = 't' then some '\t'
  else if character = 'n' then some '\n'
  else if character = 'f' then some (Char.ofNat 0x0C)
  else if character = 'r' then some '\r'
  else none

/-- Put one more piece in front of those that were read. -/
def withPiece (piece : Piece) (read? : Option (List Piece × List Char)) :
    Option (List Piece × List Char) :=
  read?.map fun (pieces, rest) => (piece :: pieces, rest)

/-- The pieces of a string literal after its opening quote, and what follows its closing quote. -/
def readPieces? : List Char → Option (List Piece × List Char)
  | [] => none
  | character :: rest =>
    if character = '"' then some ([], rest)
    else if character = '\\' then
      match rest with
      | [] => none
      | kind :: rest =>
        match shortEscape? kind with
        | some meant => withPiece (.plain meant) (readPieces? rest)
        | none =>
          if kind = 'u' then
            match rest with
            | first :: second :: third :: fourth :: rest =>
              match hexUnit? first second third fourth with
              | some unit => withPiece (.unit unit) (readPieces? rest)
              | none => none
            | _ => none
          else none
    else if character.toNat < 0x20 then none
    else withPiece (.plain character) (readPieces? rest)

/-- The characters that pieces stand for; half of a surrogate pair stands for none. -/
def joinPieces? : List Piece → Option (List Char)
  | [] => some []
  | .plain character :: rest => (joinPieces? rest).map (character :: ·)
  | .unit high :: .unit low :: rest =>
    match Text.pairedCharacter? high low with
    | some character => (joinPieces? rest).map (character :: ·)
    | none =>
      if Text.isSurrogate high then none
      else (joinPieces? (.unit low :: rest)).map (Char.ofNat high :: ·)
  | .unit value :: rest =>
    if Text.isSurrogate value then none else (joinPieces? rest).map (Char.ofNat value :: ·)

/-- A number literal taken apart. A fraction or an exponent that is written has at
least one digit. -/
structure NumberLiteral where
  negative : Bool
  whole : List Char
  fraction : Option (List Char)
  /-- Whether the exponent is negative, and its digits. -/
  exponent : Option (Bool × List Char)
  deriving Repr, DecidableEq

/-- The digits at the front, at least one of them, and the rest. -/
def readDigits? (characters : List Char) : Option (List Char × List Char) :=
  match characters.span Text.isDigit with
  | ([], _) => none
  | (found, rest) => some (found, rest)

/-- The digits before the point: a zero stands alone. -/
def readWhole? (characters : List Char) : Option (List Char × List Char) :=
  match readDigits? characters with
  | some ('0' :: _ :: _, _) => none
  | found => found

/-- The digits after a point, if there is a point. -/
def readFraction? : List Char → Option (Option (List Char) × List Char)
  | '.' :: rest => (readDigits? rest).map fun (found, rest) => (some found, rest)
  | rest => some (none, rest)

/-- The sign and the digits of an exponent, after its letter. -/
def readExponentDigits? : List Char → Option ((Bool × List Char) × List Char)
  | '-' :: rest => (readDigits? rest).map fun (found, rest) => ((true, found), rest)
  | '+' :: rest => (readDigits? rest).map fun (found, rest) => ((false, found), rest)
  | rest => (readDigits? rest).map fun (found, rest) => ((false, found), rest)

/-- An exponent, if there is a letter for it. -/
def readExponent? : List Char → Option (Option (Bool × List Char) × List Char)
  | character :: rest =>
    if character = 'e' ∨ character = 'E' then
      (readExponentDigits? rest).map fun (found, rest) => (some found, rest)
    else some (none, character :: rest)
  | [] => some (none, [])

/-- A number literal without its sign. -/
def readMagnitude? (negative : Bool) (characters : List Char) :
    Option (NumberLiteral × List Char) := do
  let (whole, rest) ← readWhole? characters
  let (fraction, rest) ← readFraction? rest
  let (exponent, rest) ← readExponent? rest
  some (⟨negative, whole, fraction, exponent⟩, rest)

/-- A number literal and what follows it. -/
def readNumber? : List Char → Option (NumberLiteral × List Char)
  | '-' :: rest => readMagnitude? true rest
  | rest => readMagnitude? false rest

/-- Append digits to a coefficient for as long as it stays below 2^64; the digits left over come
back. -/
def absorbDigits : Nat → List Char → Nat × List Char
  | coefficient, [] => (coefficient, [])
  | coefficient, character :: rest =>
    let longer := coefficient * 10 + Text.digitValue character
    if longer ≤ Text.uint64Max then absorbDigits longer rest else (coefficient, character :: rest)

/-- The signed number that the digits of an exponent stand for. -/
def exponentValue : Option (Bool × List Char) → Int
  | none => 0
  | some (true, found) => -(Text.digitsValue 0 found : Int)
  | some (false, found) => Text.digitsValue 0 found

/-- The double of a literal. Its coefficient keeps the leading digits that fit 64 bits: a digit
before the point that does not fit still counts as a place, one after the point is dropped. -/
def NumberLiteral.double? (literal : NumberLiteral) : Option Double := do
  let (whole, places) := absorbDigits 0 literal.whole
  let fraction := literal.fraction.getD []
  let (coefficient, dropped) := absorbDigits whole fraction
  let taken := fraction.length - dropped.length
  let exponent : Int := (places.length : Int) - (taken : Int) + exponentValue literal.exponent
  let magnitude ← Double.ofDecimal? coefficient exponent
  some (magnitude.withSign literal.negative)

/-- The value of a literal: an integer if it is written as one and fits 64 bits, with or without a
sign, else a double. Minus zero is a double, as no integer is. -/
def NumberLiteral.value? (literal : NumberLiteral) : Option Number :=
  let magnitude := Text.digitsValue 0 literal.whole
  let isInteger := literal.fraction.isNone && literal.exponent.isNone
  if isInteger && !literal.negative && magnitude ≤ Text.uint64Max then
    some (.integer magnitude)
  else if isInteger && literal.negative && magnitude ≠ 0 && -(magnitude : Int) ≥ Text.int64Min then
    some (.integer (-(magnitude : Int)))
  else literal.double?.map .double

end WorkerBindings.Json
