import Docstore.Number.Binary64

/-!
# The shortest decimal that reads back

A finite number is printed with the fewest significant digits that still round to it. The decimals
`c * 10 ^ j` of one exponent `j` form a grid; the coarsest grid that has a point among the reals
rounding to the number gives the fewest digits, and of the two grid points around the number the
nearer one is taken.
-/

namespace Docstore

/-- The decimal `digits * 10 ^ exponent`. -/
structure Decimal where
  digits : Nat
  exponent : Int
deriving DecidableEq, Repr

/-- Which of two equally near decimals is printed. -/
inductive Tie where
  | toEven
  | up
deriving DecidableEq, Repr

namespace Binary64

/-- `10 ^ (-j)`, as a numerator and a denominator. -/
def perTenPower (j : Int) : Nat × Nat :=
  (Nat.pow 10 (-j).toNat, Nat.pow 10 j.toNat)

/-- Whether `c * 10 ^ j` rounds to the finite magnitude `m`: it lies between the midpoints to the two
neighbours of `m`, which themselves round to `m` exactly when `m` is even. -/
def readsBack (m c : Nat) (j : Int) : Bool :=
  let (scale, per) := perTenPower j
  let twice := 2 * c * per * unitsPerOne
  let low := (units (m - 1) + units m) * scale
  let high := (units m + units (m + 1)) * scale
  if m % 2 = 0 then low ≤ twice && twice ≤ high else low < twice && twice < high

/-- The point of the grid `10 ^ j` that prints the magnitude `m`, if one of the two around it reads
back: the only one that does, or the nearer, or the one `tie` asks for. -/
def gridPoint? (tie : Tie) (m : Nat) (j : Int) : Option Nat :=
  let (scale, per) := perTenPower j
  let num := units m * scale
  let den := per * unitsPerOne
  let below := num / den
  match readsBack m below j, readsBack m (below + 1) j with
  | false, false => none
  | true, false => some below
  | false, true => some (below + 1)
  | true, true =>
    let twice := 2 * (num % den)
    if twice < den then some below
    else if den < twice then some (below + 1)
    else match tie with
      | .up => some (below + 1)
      | .toEven => some (below + below % 2)

/-- The first grid with a point that prints `m`, from `10 ^ j` on to finer ones. -/
def firstGridPoint (tie : Tie) (m : Nat) : Nat → Int → Decimal
  | 0, j => ⟨0, j⟩
  | fuel + 1, j =>
    match gridPoint? tie m j with
    | some c => ⟨c, j⟩
    | none => firstGridPoint tie m fuel (j - 1)

/-- The shortest decimal that reads back as the finite, nonzero magnitude `m`. The search starts at
the first power of ten above the number, or at one; seventeen digits always suffice, so it ends
before the grid of `10 ^ (-342)`. -/
def shortest (tie : Tie) (m : Nat) : Decimal :=
  let whole := units m / unitsPerOne
  let start := if whole = 0 then 0 else (Nat.toDigits 10 whole).length
  firstGridPoint tie m (start + 343) start

end Binary64

end Docstore
