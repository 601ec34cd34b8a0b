/-!
# Ranges of characters

Properties of characters are kept as tables of ranges of code points. A range may take every
character or, as in alphabets that alternate capital and small letters, every second one.
-/

namespace Docstore

/-- The code points `first`, `first + step`, … up to `last`. -/
structure CodeRange where
  first : Nat
  last : Nat
  step : Nat

namespace CodeRange

def contains (r : CodeRange) (c : Char) : Bool :=
  r.first ≤ c.toNat && c.toNat ≤ r.last && (c.toNat - r.first) % r.step == 0

/-- Whether some range of a table has the character. -/
def anyContains (table : List CodeRange) (c : Char) : Bool :=
  table.any (·.contains c)

end CodeRange

end Docstore
