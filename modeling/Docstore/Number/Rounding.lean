import Docstore.Number.Binary64

/-!
# Rounding to binary64

Every number that comes from outside (a decimal literal, an integer, a number of single precision)
becomes the nearest binary64 number, a half going to the even neighbour. One rule serves all of
them: the value is written as a ratio counted in multiples of `2 ^ (-1074)`, and the scale of
magnitudes makes the carry into the next exponent, and into infinity, a plain addition.
-/

namespace Docstore

/-- `num / den` to the nearest natural number, a half going to the even one. -/
def roundHalfEven (num den : Nat) : Nat :=
  let q := num / den
  let twice := 2 * (num % den)
  if twice < den then q else if den < twice then q + 1 else q + q % 2

namespace Binary64

/-- The step exponent `k` and the count `q` such that `q * 2 ^ k` is `num / den` rounded to
`precision` binary digits, in steps never finer than `2 ^ finest`. -/
def roundedSteps (precision finest num den : Nat) : Nat × Nat :=
  let k := max finest (Nat.log2 (num / den) + 1 - precision)
  (k, roundHalfEven num (den * Nat.pow 2 k))

/-- The number nearest to plus or minus `num / den` multiples of `2 ^ (-1074)`. -/
def ofUnits (negative : Bool) (num den : Nat) : Binary64 :=
  let (k, q) := roundedSteps 53 0 num den
  ofMagnitude negative (min (k * fractionWeight + q) infiniteMagnitude)

/-- The number nearest to an integer. -/
def ofInt (n : Int) : Binary64 :=
  ofUnits (decide (n < 0)) (n.natAbs * unitsPerOne) 1

/-- The number nearest to `digits * 10 ^ exponent`, with the sign given apart so that minus zero can
be read. Exponents far outside the range of the format are settled without raising ten to them. -/
def ofDecimal (negative : Bool) (digits : Nat) (exponent : Int) : Binary64 :=
  if digits = 0 then zero negative
  else if 400 < exponent then infinity negative
  else if exponent + Nat.log2 digits < -400 then zero negative
  else if 0 ≤ exponent then ofUnits negative (digits * Nat.pow 10 exponent.toNat * unitsPerOne) 1
  else ofUnits negative (digits * unitsPerOne) (Nat.pow 10 (-exponent).toNat)

/-- The nearest number of single precision: 24 binary digits, in steps no finer than `2 ^ (-149)`,
and infinite from `2 ^ 128` on. -/
def toSingle (x : Binary64) : Binary64 :=
  if x.isFinite then
    let (k, q) := roundedSteps 24 (1074 - 149) (units x.magnitude) 1
    if Nat.pow 2 128 * unitsPerOne ≤ q * Nat.pow 2 k then infinity x.isNegative
    else ofUnits x.isNegative (q * Nat.pow 2 k) 1
  else x

end Binary64

end Docstore
