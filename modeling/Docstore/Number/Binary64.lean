/-!
# Binary64 numbers

A number is kept as the 64 bits of its binary64 form, so that every number the library handles,
each NaN and both zeros included, is a value a proof can look into.

Below the sign bit the format is one long scale: read as a natural number (`Binary64.magnitude`),
those bits count the finite numbers upward from zero, then the infinity, then the NaNs. Both orders
of the library are orders of that scale. `Binary64.compare?` compares numeric values, with the two
zeros equal and a NaN beside nothing. `Binary64.totalCompare` places every bit pattern, so it is the
order for sorting.

The main laws: `Binary64.eq_of_position_eq` (a place on the total order is one bit pattern) and
`Binary64.totalCompare_eq_eq_iff`.
-/

namespace Docstore

/-- A binary64 number, as its 64 bits. -/
structure Binary64 where
  bits : UInt64
deriving DecidableEq, Inhabited

namespace Binary64

/-- The weight of the sign bit, `2 ^ 63`. -/
def signWeight : Nat := 0x8000000000000000

/-- The weight of the lowest exponent bit, `2 ^ 52`: how many numbers share one exponent. -/
def fractionWeight : Nat := 0x10000000000000

/-- The magnitude of the two infinities. Smaller ones are finite, larger ones are NaNs. -/
def infiniteMagnitude : Nat := 2047 * fractionWeight

/-- Finite numbers are multiples of `2 ^ (-1074)`: this many make one. -/
def unitsPerOne : Nat := Nat.pow 2 1074

/-- The bits below the sign, as a place on the scale that leads away from zero. -/
def magnitude (x : Binary64) : Nat :=
  x.bits.toNat % signWeight

/-- Whether the sign bit is set; also true of minus zero and of half the NaNs. -/
def isNegative (x : Binary64) : Bool :=
  decide (signWeight ≤ x.bits.toNat)

/-- The number with a given sign and magnitude. -/
def ofMagnitude (negative : Bool) (m : Nat) : Binary64 :=
  ⟨UInt64.ofNat (m % signWeight + if negative then signWeight else 0)⟩

/-- Plus or minus zero. -/
def zero (negative : Bool) : Binary64 := ofMagnitude negative 0

/-- Plus or minus infinity. -/
def infinity (negative : Bool) : Binary64 := ofMagnitude negative infiniteMagnitude

/-- The NaN with a clear sign and only the quiet bit set. -/
def nan : Binary64 := ofMagnitude false (infiniteMagnitude + fractionWeight / 2)

def isNaN (x : Binary64) : Bool := decide (infiniteMagnitude < x.magnitude)

def isFinite (x : Binary64) : Bool := decide (x.magnitude < infiniteMagnitude)

/-- What a magnitude is worth, counted in multiples of `2 ^ (-1074)`. The place of the infinity is
given the value `2 ^ 1024` that would come next, which is where rounding to it begins. -/
def units (m : Nat) : Nat :=
  if m < fractionWeight then m
  else (fractionWeight + m % fractionWeight) * Nat.pow 2 (m / fractionWeight - 1)

/-- The whole number that `x` is, if it is one. Minus zero is the whole number zero. -/
def toInt? (x : Binary64) : Option Int :=
  if x.isFinite ∧ units x.magnitude % unitsPerOne = 0 then
    let n : Int := units x.magnitude / unitsPerOne
    some (if x.isNegative then -n else n)
  else none

/-! ## The order of values -/

/-- The magnitude with its sign: on numbers that are not NaN, the order of ranks is the order of
values, and the two zeros share a rank. -/
def rank (x : Binary64) : Int :=
  if x.isNegative then -(x.magnitude : Int) else x.magnitude

/-- The order of two numeric values; a NaN has no place in it. -/
def compare? (x y : Binary64) : Option Ordering :=
  if x.isNaN || y.isNaN then none else some (compare x.rank y.rank)

/-- Equality of numeric values: a NaN differs from itself, and minus zero equals zero. -/
def sameValue (x y : Binary64) : Bool :=
  x.compare? y == some .eq

/-! ## The order of bit patterns -/

/-- The place of a bit pattern on the total order: the negative patterns, furthest from zero first,
then the others. Minus zero comes just before zero. -/
def position (x : Binary64) : Int :=
  if x.isNegative then -1 - (x.magnitude : Int) else x.magnitude

/-- The total order of bit patterns. -/
def totalCompare (x y : Binary64) : Ordering :=
  compare x.position y.position

theorem magnitude_lt (x : Binary64) : x.magnitude < signWeight :=
  Nat.mod_lt _ (by decide)

/-- The sign and the magnitude are all there is to a number. -/
theorem eq_of_magnitude_eq {x y : Binary64} (hs : x.isNegative = y.isNegative)
    (hm : x.magnitude = y.magnitude) : x = y := by
  have hx := x.bits.toNat_lt
  have hy := y.bits.toNat_lt
  have e : x.bits.toNat = y.bits.toNat := by
    have hs' := decide_eq_decide.mp hs
    simp only [magnitude, signWeight] at hs' hm
    omega
  cases x; cases y
  exact congrArg Binary64.mk (UInt64.toNat_inj.mp e)

/-- No two bit patterns share a place on the total order. -/
theorem eq_of_position_eq {x y : Binary64} (h : x.position = y.position) : x = y := by
  have hx : (0 : Int) ≤ x.magnitude := Int.natCast_nonneg _
  have hy : (0 : Int) ≤ y.magnitude := Int.natCast_nonneg _
  unfold position at h
  refine eq_of_magnitude_eq ?_ ?_ <;>
    cases hs : x.isNegative <;> cases ht : y.isNegative <;> simp [hs, ht] at h ⊢ <;> omega

/-- The total order tells every two bit patterns apart. -/
theorem totalCompare_eq_eq_iff {x y : Binary64} : x.totalCompare y = .eq ↔ x = y := by
  rw [totalCompare, Int.compare_eq_eq]
  exact ⟨eq_of_position_eq, congrArg position⟩

end Binary64

end Docstore
