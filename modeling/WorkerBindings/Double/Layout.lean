import WorkerBindings.Double.Shortest

/-!
# Layouts of written doubles

A layout says which magnitudes are written with an exponent and whether a whole number keeps a
decimal zero. Two layouts are in use: `plain` for the text of a binding entry and `json` for
documents.
-/

namespace WorkerBindings.Double

/-- The choices that turn the shortest decimal of a double into text. -/
structure Layout where
  /-- Which decimal is taken when two shortest ones are equally near. -/
  tie : Tie
  /-- Magnitudes whose leading digit has an exponent inside these bounds are written without one;
  `none` means that no exponent is ever written. -/
  positional : Option (Int × Int)
  /-- Whether a positional number always shows a fraction. -/
  keepsFraction : Bool

/-- Digits only, never an exponent, and no fraction where none is needed. -/
def plain : Layout := ⟨.upward, none, false⟩

/-- Positional from 10^-5 up to 10^16, exponents with their sign outside, and a decimal zero on
whole numbers, so that a reader can tell a double from an integer. -/
def json : Layout := ⟨.toEven, some (-5, 15), true⟩

/-- A decimal with all its digits and a point; `magnitude` is the exponent of its leading digit. -/
def positionalText (keepsFraction : Bool) (coefficient : List Char) (magnitude : Int) : List Char :=
  let zeros (count : Int) := List.replicate count.toNat '0'
  let count : Int := coefficient.length
  if magnitude < 0 then ['0', '.'] ++ zeros (-magnitude - 1) ++ coefficient
  else if count ≤ magnitude + 1 then
    coefficient ++ zeros (magnitude + 1 - count) ++ (if keepsFraction then ['.', '0'] else [])
  else
    coefficient.take (magnitude + 1).toNat ++ ['.'] ++ coefficient.drop (magnitude + 1).toNat

/-- A decimal with one digit before the point and a signed exponent. -/
def exponentText (coefficient : List Char) (magnitude : Int) : List Char :=
  let mantissa := match coefficient with
    | [] => []
    | [leading] => [leading]
    | leading :: fraction => leading :: '.' :: fraction
  let sign := if magnitude < 0 then '-' else '+'
  mantissa ++ ['e', sign] ++ Text.digits magnitude.natAbs

/-- The text of a double in a layout. -/
def Layout.write (layout : Layout) (value : Double) : List Char :=
  let sign := if value.negative then ['-'] else []
  if value.significand = 0 then sign ++ positionalText layout.keepsFraction ['0'] 0
  else
    let decimal := value.shortest layout.tie
    let coefficient := Text.digits decimal.coefficient
    let magnitude := decimal.exponent + coefficient.length - 1
    let inside := match layout.positional with
      | none => true
      | some (low, high) => low ≤ magnitude && magnitude ≤ high
    sign ++ (if inside then positionalText layout.keepsFraction coefficient magnitude
      else exponentText coefficient magnitude)

/-- The text of a double among the entries of a binding. -/
def plainText (value : Double) : String :=
  String.ofList (plain.write value)

end WorkerBindings.Double
