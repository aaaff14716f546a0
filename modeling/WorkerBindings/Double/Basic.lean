/-!
# Finite doubles

A finite double is a sign, a significand of at most 53 bits and a power of two. Infinities and NaNs
are not represented: no document can hold one. `ofRatio?` rounds a quotient of natural numbers to
the nearest double, halves to the even significand, and is the only way in which doubles arise, so
every significand below 2^52 goes with the least exponent.
-/

namespace WorkerBindings

/-- A finite double, `significand * 2 ^ exponent` with a sign of its own, so that there are two
zeros. -/
structure Double where
  negative : Bool
  significand : Nat
  exponent : Int
  deriving Repr, DecidableEq

namespace Double

/-- The least exponent, that of the zeros and of the smallest doubles. -/
def minExponent : Int := -1074

/-- The exponent of the largest doubles. -/
def maxExponent : Int := 971

/-- The positive zero. -/
def zero : Double := ⟨false, 0, minExponent⟩

/-- A quotient multiplied by a power of a base that may have a negative exponent. -/
def scaleRatio (base : Nat) (exponent : Int) (ratio : Nat × Nat) : Nat × Nat :=
  if 0 ≤ exponent then (ratio.1 * base.pow exponent.toNat, ratio.2)
  else (ratio.1, ratio.2 * base.pow (-exponent).toNat)

/-- The integer nearest to a quotient, the even one of two that are equally near. -/
def nearestInteger (numerator denominator : Nat) : Nat :=
  let quotient := numerator / denominator
  let twice := 2 * (numerator % denominator)
  if twice < denominator then quotient
  else if denominator < twice then quotient + 1
  else quotient + quotient % 2

/-- The exponent of the largest power of two that is not above a positive quotient. -/
def binaryMagnitude (numerator denominator : Nat) : Int :=
  let estimate : Int := (Nat.log2 numerator : Int) - (Nat.log2 denominator : Int)
  let (scaledNumerator, scaledDenominator) := scaleRatio 2 (-estimate) (numerator, denominator)
  if scaledDenominator ≤ scaledNumerator then estimate else estimate - 1

/-- The nearest non-negative double to a quotient; there is none beyond the largest double. -/
def ofRatio? (ratio : Nat × Nat) : Option Double :=
  if ratio.1 = 0 then some zero
  else
    let exponent := max (binaryMagnitude ratio.1 ratio.2 - 52) minExponent
    let (numerator, denominator) := scaleRatio 2 (-exponent) ratio
    let significand := nearestInteger numerator denominator
    let rounded : Double :=
      if significand = Nat.pow 2 53 then ⟨false, Nat.pow 2 52, exponent + 1⟩
      else ⟨false, significand, exponent⟩
    if maxExponent < rounded.exponent then none else some rounded

/-- The exact magnitude of a double as a quotient of natural numbers. -/
def toRatio (value : Double) : Nat × Nat :=
  scaleRatio 2 value.exponent (value.significand, 1)

/-- The same magnitude with the sign that is asked for. -/
def withSign (value : Double) (negative : Bool) : Double :=
  { value with negative }

/-- The nearest double to a natural number. -/
def ofNat? (value : Nat) : Option Double :=
  ofRatio? (value, 1)

/-- The nearest double to the product of two magnitudes. -/
def times? (left right : Double) : Option Double :=
  ofRatio? (left.toRatio.1 * right.toRatio.1, left.toRatio.2 * right.toRatio.2)

/-- The nearest double to the quotient of two magnitudes. -/
def over? (left right : Double) : Option Double :=
  ofRatio? (left.toRatio.1 * right.toRatio.2, left.toRatio.2 * right.toRatio.1)

/-- The largest power of ten that is a double. -/
def maxPowerOfTen : Nat := 308

/-- `scaleTen? rounds value exponent` is `value * 10 ^ exponent` in steps that each round once: a
power of ten between 10^-308 and 10^308 is one step, and a smaller one is reached by further
divisions by 10^308. A magnitude below 2^64 vanishes after two such divisions, so three rounds are
always enough. -/
def scaleTen? : Nat → Double → Int → Option Double
  | 0, _, _ => some zero
  | rounds + 1, value, exponent =>
    if exponent.natAbs ≤ maxPowerOfTen then do
      let power ← ofNat? (Nat.pow 10 exponent.natAbs)
      if 0 ≤ exponent then value.times? power else value.over? power
    else if value.significand = 0 then some value
    else if 0 ≤ exponent then none
    else do
      let power ← ofNat? (Nat.pow 10 maxPowerOfTen)
      let smaller ← value.over? power
      scaleTen? rounds smaller (exponent + maxPowerOfTen)

/-- The double that a decimal coefficient below 2^64 and a power of ten stand for. -/
def ofDecimal? (coefficient : Nat) (exponent : Int) : Option Double := do
  let value ← ofNat? coefficient
  scaleTen? 3 value exponent

end Double

end WorkerBindings
