import Docstore.Value.Basic

/-!
# Orders of values

Two orders serve two purposes. `Value.compare?` is the order of range filters: it only compares two
truth values, numbers, dates or strings with each other. `Value.totalCompare` is the order of
sorting: it places any two values, kinds first, and inside a kind it tells apart whatever has
another structure or other bits.
-/

namespace Docstore.Value

/-- The order of two scalars of one kind. -/
def compare? : Value → Value → Option Ordering
  | .boolean a, .boolean b => some (compare a b)
  | .number x, .number y => x.compare? y
  | .date s, .date t => some (compare s t)
  | .string s, .string t => some (compare s t)
  | _, _ => none

mutual

/-- The order of sorting. -/
def totalCompare : Value → Value → Ordering
  | .boolean a, .boolean b => compare a b
  | .number x, .number y => x.totalCompare y
  | .date s, .date t => compare s t
  | .string s, .string t => compare s t
  | .array xs, .array ys => totalCompareItems xs ys
  | v, w => compare v.kind.rank w.kind.rank

/-- The order of arrays: by the first items that differ, else the shorter one first. -/
def totalCompareItems : List Value → List Value → Ordering
  | [], [] => .eq
  | [], _ :: _ => .lt
  | _ :: _, [] => .gt
  | x :: xs, y :: ys => (totalCompare x y).then (totalCompareItems xs ys)

end

end Docstore.Value
