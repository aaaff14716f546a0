import WorkerBindings.Double.Basic
import WorkerBindings.Text.Digits

/-!
# The shortest decimal of a double

The reals that round to one double form an interval, whose ends belong to it when the significand is
even. `shortest` tries the decimal grids of one, two, and up to seventeen digits, and takes the
first grid with a point in the interval; of two such points it takes the nearer one. Points that are
equally near are told apart by a rule of the caller.
-/

namespace WorkerBindings.Double

/-- How the nearer of two decimals is chosen when the value lies exactly between them. -/
inductive Tie where
  | toEven
  | upward
  deriving Repr, DecidableEq

/-- A decimal number, `coefficient * 10 ^ exponent`. -/
structure Decimal where
  coefficient : Nat
  exponent : Int
  deriving Repr, DecidableEq

/-- The interval of the magnitudes that round to a double. -/
structure Neighbourhood where
  low : Nat × Nat
  high : Nat × Nat
  closed : Bool

/-- Order of two quotients. -/
def ratioLe (left right : Nat × Nat) : Bool :=
  left.1 * right.2 ≤ right.1 * left.2

/-- Strict order of two quotients. -/
def ratioLt (left right : Nat × Nat) : Bool :=
  left.1 * right.2 < right.1 * left.2

/-- The neighbourhood of a positive double. Just above a power of two the doubles below are twice as
dense, so the lower end is only a quarter of a step away. -/
def neighbourhood (value : Double) : Neighbourhood where
  low :=
    if value.significand = Nat.pow 2 52 ∧ minExponent < value.exponent then
      scaleRatio 2 (value.exponent - 2) (4 * value.significand - 1, 1)
    else scaleRatio 2 (value.exponent - 1) (2 * value.significand - 1, 1)
  high := scaleRatio 2 (value.exponent - 1) (2 * value.significand + 1, 1)
  closed := value.significand % 2 == 0

/-- Whether a decimal not above the value rounds to it. -/
def Neighbourhood.reachesDown (around : Neighbourhood) (point : Nat × Nat) : Bool :=
  if around.closed then ratioLe around.low point else ratioLt around.low point

/-- Whether a decimal not below the value rounds to it. -/
def Neighbourhood.reachesUp (around : Neighbourhood) (point : Nat × Nat) : Bool :=
  if around.closed then ratioLe point around.high else ratioLt point around.high

/-- The exponent of the largest power of ten that is not above a positive quotient. -/
def decimalMagnitude (ratio : Nat × Nat) : Int :=
  let estimate : Int := ((Text.digits ratio.1).length : Int) - ((Text.digits ratio.2).length : Int)
  if ratioLe (scaleRatio 10 estimate (1, 1)) ratio then estimate else estimate - 1

/-- The decimal on one grid that rounds to the value and is nearest to it, if there is one. -/
def onGrid? (tie : Tie) (ratio : Nat × Nat) (around : Neighbourhood) (exponent : Int) :
    Option Decimal :=
  let (numerator, denominator) := scaleRatio 10 (-exponent) ratio
  let below := numerator / denominator
  let point (coefficient : Nat) := scaleRatio 10 exponent (coefficient, 1)
  let downOk := around.reachesDown (point below)
  let upOk := around.reachesUp (point (below + 1))
  let twice := 2 * (numerator % denominator)
  let preferUp := denominator < twice ||
    (twice == denominator && (match tie with
      | .toEven => below % 2 == 1
      | .upward => true))
  match downOk, upOk with
  | false, false => none
  | true, false => some ⟨below, exponent⟩
  | false, true => some ⟨below + 1, exponent⟩
  | true, true => some ⟨if preferUp then below + 1 else below, exponent⟩

/-- The same decimal without trailing zeros in its coefficient; `places` bounds how
many there are. -/
def Decimal.stripped : Nat → Decimal → Decimal
  | 0, decimal => decimal
  | places + 1, decimal =>
    if decimal.coefficient % 10 = 0 then
      stripped places ⟨decimal.coefficient / 10, decimal.exponent + 1⟩
    else decimal

/-- The decimal with the fewest digits that rounds to a positive double, and of
those the nearest. -/
def shortest (tie : Tie) (value : Double) : Decimal :=
  let ratio := value.toRatio
  let magnitude := decimalMagnitude ratio
  let around := value.neighbourhood
  let found := (List.range 17).findSome? fun (extra : Nat) =>
    onGrid? tie ratio around (magnitude - extra)
  (found.getD ⟨0, 0⟩).stripped 20

end WorkerBindings.Double
