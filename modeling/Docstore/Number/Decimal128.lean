import Docstore.Number.Text

/-!
# Decimal128 numbers

A stored document may hold decimal numbers of 128 bits. They are kept as their bits, and are only shown.

Below the sign bit the topmost five bits tell an infinity and a NaN from the finite numbers. A finite
number is a coefficient of up to 34 digits and a power of ten. Its exponent has fourteen bits and its
coefficient the bits below them. Where the topmost two bits are both set the exponent begins after them,
and the coefficient would be one of more than 34 digits: such a coefficient stands for zero.
-/

namespace Docstore

/-- A decimal number, as its 128 bits. -/
structure Decimal128 where
  bits : BitVec 128
deriving DecidableEq

namespace Decimal128

/-- How many coefficients there are. -/
def coefficients : Nat := Nat.pow 10 34

/-- The exponent that is kept as zero. -/
def leastExponent : Int := -6176

/-- Whether the sign bit is set. -/
def isNegative (x : Decimal128) : Bool := x.bits.msb

/-- The bits below the sign. -/
def magnitude (x : Decimal128) : Nat := x.bits.toNat % Nat.pow 2 127

def isInfinite (x : Decimal128) : Bool := x.magnitude / Nat.pow 2 122 = 30

def isNaN (x : Decimal128) : Bool := x.magnitude / Nat.pow 2 122 = 31

/-- Whether the exponent begins after the topmost two bits. -/
def isShifted (x : Decimal128) : Bool := x.magnitude / Nat.pow 2 125 = 3

/-- The power of ten of a finite number. -/
def exponent (x : Decimal128) : Int :=
  leastExponent + (x.magnitude / Nat.pow 2 (if x.isShifted then 111 else 113) % Nat.pow 2 14 : Nat)

/-- The coefficient of a finite number. -/
def coefficient (x : Decimal128) : Nat :=
  let n := x.magnitude % Nat.pow 2 113
  if x.isShifted ∨ coefficients ≤ n then 0 else n

/-- The text of a number: its digits, with a point where the exponent puts it, or with an exponent if
there is no such place or it is far before the digits. -/
def text (x : Decimal128) : String :=
  let sign := if x.isNegative then "-" else ""
  let digits := Nat.toDigits 10 x.coefficient
  let place := digits.length + x.exponent
  if x.isNaN then "NaN"
  else if x.isInfinite then sign ++ "Infinity"
  else if x.exponent ≤ 0 ∧ -6 < place then sign ++ Decimal.positional digits place ""
  else sign ++ Decimal.scientific "E" digits place

end Decimal128

end Docstore
