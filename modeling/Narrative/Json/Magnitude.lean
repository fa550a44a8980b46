/-!
# Magnitudes of numbers

A number is taken in as a significand and a power of ten. The significand is a word of 64 bits:
from the first digit on that does not fit, the digits before the point only count as powers of
ten, and those after it do not count at all. The number is finite when the double nearest to the
significand, times the double nearest to the power, does not round to infinity.
-/

namespace Narrative.Json

/-- The natural number nearest to a quotient; of two, the even one. -/
def nearestQuotient (dividend divisor : Nat) : Nat :=
  let quotient := dividend / divisor
  let twice := 2 * (dividend % divisor)
  if divisor < twice ∨ (twice = divisor ∧ quotient % 2 = 1) then quotient + 1 else quotient

/-- The number nearest to a natural number that has a significand of 53 bits. -/
def nearestDouble (value : Nat) : Nat :=
  let unit := Nat.pow 2 (value.log2 - 52)
  nearestQuotient value unit * unit

/-- The least magnitude that rounds to infinity as a double: half a unit above the largest. -/
def overflowMagnitude : Nat := Nat.pow 2 1024 - Nat.pow 2 970

/-- The largest power of ten that is a double. -/
def largestExponent : Int := 308

/-- A number without its sign: a significand times a power of ten. -/
structure Magnitude where
  /-- The digits that count, as one number. -/
  significand : Nat
  /-- The power of ten. -/
  exponent : Int
  deriving DecidableEq, Repr

namespace Magnitude

/-- Add digits to a significand for as long as it stays a word of 64 bits; the digits left. -/
def absorb (significand : Nat) : List Char → Nat × List Char
  | [] => (significand, [])
  | digit :: rest =>
    let next := significand * 10 + (digit.toNat - '0'.toNat)
    if next < UInt64.size then absorb next rest else (significand, digit :: rest)

/-- The magnitude of the digits before a point, the digits after it, and the exponent. -/
def ofDigits (whole fraction : List Char) (exponent : Int) : Magnitude :=
  let (significand, counted) := absorb 0 whole
  let (significand, dropped) := absorb significand fraction
  ⟨significand, exponent + counted.length - (fraction.length - dropped.length : Nat)⟩

/-- Whether a magnitude is below infinity. -/
def isFinite (magnitude : Magnitude) : Bool :=
  if magnitude.significand = 0 ∨ magnitude.exponent ≤ 0 then true
  else if largestExponent < magnitude.exponent then false
  else
    nearestDouble magnitude.significand * nearestDouble (Nat.pow 10 magnitude.exponent.toNat)
      < overflowMagnitude

end Magnitude

end Narrative.Json
