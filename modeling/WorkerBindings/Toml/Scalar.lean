import WorkerBindings.Json.Literal
import WorkerBindings.Text.Substitution

/-!
# TOML numbers and times

Which rows of characters are numbers, dates or times. Only their form is of interest here, and that
a number can be held at all: integers in 128 bits, other numbers in a double.
-/

namespace WorkerBindings.Toml

/-- Whether every underscore stands between two digits. -/
def wellSpaced (isDigit : Char → Bool) (characters : List Char) : Bool :=
  (Text.pieces '_' characters).all fun piece =>
    (piece.head?.any isDigit) && (piece.getLast?.any isDigit)

/-- A row of characters without its underscores. -/
def withoutUnderscores (characters : List Char) : List Char :=
  characters.filter (· != '_')

/-- Whether an integer can be held. -/
def fitsInteger (value : Int) : Bool :=
  -(Int.pow 2 127) ≤ value && value < Int.pow 2 128

/-- The number that digits of a base stand for. -/
def baseNumber? (base : Nat) (characters : List Char) : Option Nat :=
  let isDigit (character : Char) : Bool :=
    match Text.hexValue? character with
    | some value => value < base
    | none => false
  let digits := withoutUnderscores characters
  if !digits.isEmpty && wellSpaced isDigit characters && digits.all isDigit then
    some (digits.foldl (fun value digit => value * base + (Text.hexValue? digit).getD 0) 0)
  else none

/-- A sign taken off a number: whether it is a minus, and the rest. -/
def afterSign : List Char → Bool × List Char
  | '-' :: rest => (true, rest)
  | '+' :: rest => (false, rest)
  | rest => (false, rest)

/-- Whether a row of characters is a decimal number with or without a fraction and an exponent. -/
def isDecimal (characters : List Char) : Bool :=
  let (negative, magnitude) := afterSign characters
  match Json.readMagnitude? negative (withoutUnderscores magnitude) with
  | some (literal, []) =>
    wellSpaced Text.isDigit magnitude &&
      (if literal.fraction.isNone && literal.exponent.isNone then
        let value : Int := Text.digitsValue 0 literal.whole
        fitsInteger (if negative then -value else value)
      else literal.double?.isSome)
  | _ => false

/-- Whether a row of characters is an infinity or no number. -/
def isSpecialNumber (characters : List Char) : Bool :=
  let magnitude := (afterSign characters).2
  magnitude == ['i', 'n', 'f'] || magnitude == ['n', 'a', 'n']

/-- Whether a row of characters is a number that can be held. -/
def isNumber : List Char → Bool
  | '0' :: 'x' :: rest => (baseNumber? 16 rest).any fun value => fitsInteger value
  | '0' :: 'o' :: rest => (baseNumber? 8 rest).any fun value => fitsInteger value
  | '0' :: 'b' :: rest => (baseNumber? 2 rest).any fun value => fitsInteger value
  | characters => isDecimal characters || isSpecialNumber characters

/-- The number that exactly `width` digits at the front stand for, and the rest. -/
def fixedNumber? (width : Nat) (characters : List Char) : Option (Nat × List Char) := do
  let value ← Text.nat? (characters.take width)
  if characters.length < width then none else some (value, characters.drop width)

/-- What follows an expected character. -/
def after? (expected : Char) : List Char → Option (List Char)
  | character :: rest => if character = expected then some rest else none
  | [] => none

/-- Whether a year has a 29th of February. -/
def isLeapYear (year : Nat) : Bool :=
  (year % 4 == 0 && year % 100 != 0) || year % 400 == 0

/-- The number of days of a month. -/
def daysIn (year month : Nat) : Nat :=
  if month == 2 then if isLeapYear year then 29 else 28
  else if [4, 6, 9, 11].contains month then 30
  else 31

/-- What follows a date. -/
def afterDate? (characters : List Char) : Option (List Char) := do
  let (year, rest) ← fixedNumber? 4 characters
  let rest ← after? '-' rest
  let (month, rest) ← fixedNumber? 2 rest
  let rest ← after? '-' rest
  let (day, rest) ← fixedNumber? 2 rest
  if 1 ≤ month && month ≤ 12 && 1 ≤ day && day ≤ daysIn year month then some rest else none

/-- What follows the fraction of a second, if there is one. -/
def afterFraction? : List Char → Option (List Char)
  | '.' :: rest => (Json.readDigits? rest).map Prod.snd
  | rest => some rest

/-- What follows hours and minutes. -/
def afterMinutes? (characters : List Char) : Option (List Char) := do
  let (hour, rest) ← fixedNumber? 2 characters
  let rest ← after? ':' rest
  let (minute, rest) ← fixedNumber? 2 rest
  if hour ≤ 23 && minute ≤ 59 then some rest else none

/-- What follows a time of day. The seconds may be left out. -/
def afterTime? (characters : List Char) : Option (List Char) := do
  let rest ← afterMinutes? characters
  match rest with
  | ':' :: rest => do
    let (second, rest) ← fixedNumber? 2 rest
    if second ≤ 60 then afterFraction? rest else none
  | rest => some rest

/-- Whether a row of characters is a distance from the time of the zero meridian, or empty. -/
def isOffset : List Char → Bool
  | [] => true
  | ['Z'] => true
  | ['z'] => true
  | '+' :: rest => afterMinutes? rest == some []
  | '-' :: rest => afterMinutes? rest == some []
  | _ => false

/-- Whether a row of characters is a date on its own. -/
def isDate (characters : List Char) : Bool :=
  afterDate? characters == some []

/-- Whether a row of characters is a date, a time of day, or both with an optional offset. -/
def isTime (characters : List Char) : Bool :=
  match afterDate? characters with
  | some [] => true
  | some (separator :: rest) =>
    [' ', 'T', 't'].contains separator &&
      match afterTime? rest with
      | some offset => isOffset offset
      | none => false
  | none => afterTime? characters == some []

end WorkerBindings.Toml
