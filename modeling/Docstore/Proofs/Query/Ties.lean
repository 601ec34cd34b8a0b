import Docstore.Proofs.Value.Equality
import Docstore.Proofs.Value.SortOrder

/-!
# Equal values in a sort

Values that filters call equal do not always tie in a sort: the order of sorting tells minus zero from
zero. It sees nothing else. `Value.zeros` are the zeros in a value with their signs, and between equal
values the order of sorting is the order of these (`Value.Equal.sortsByZeros`).

So a sort key on which two documents have equal values leaves the decision to the keys after it exactly
if the zeros in the two values have the same signs (`Document.compareBy_cons_of_same`).
-/

namespace Docstore

/-- Lists that begin with parts of one length are ordered by these first. -/
theorem compare_append {α : Type} [Ord α] {as bs : List α} (h : as.length = bs.length)
    (cs ds : List α) :
    compare (as ++ cs) (bs ++ ds) = (compare as bs).then (compare cs ds) := by
  induction as generalizing bs with
  | nil =>
    cases bs with
    | nil => rfl
    | cons b bs => cases h
  | cons a as ih =>
    cases bs with
    | nil => cases h
    | cons b bs =>
      rw [List.cons_append, List.cons_append, List.compare_cons_cons, List.compare_cons_cons,
        ih (Nat.succ.inj h), Ordering.then_assoc]

namespace Value

mutual

/-- The zeros in a value, in their order: `false` stands for a minus zero. -/
def zeros : Value → List Bool
  | .number x => if x.magnitude = 0 then [!x.isNegative] else []
  | .array items => zerosOfItems items
  | _ => []

/-- The zeros in the items of an array. -/
def zerosOfItems : List Value → List Bool
  | [] => []
  | v :: vs => v.zeros ++ zerosOfItems vs

end

/-- Sorting places two values as it would place their zeros, of which they have the same number. -/
structure SortsByZeros (v w : Value) : Prop where
  length_eq : v.zeros.length = w.zeros.length
  totalCompare_eq : v.totalCompare w = compare v.zeros w.zeros

theorem SortsByZeros.refl (v : Value) : v.SortsByZeros v where
  length_eq := rfl
  totalCompare_eq := by rw [totalCompare_self, Std.compare_self]

theorem sortsByZeros_zeros {x y : Binary64} (hx : x.magnitude = 0) (hy : y.magnitude = 0) :
    SortsByZeros (.number x) (.number y) := by
  have zeros_of_zero {z : Binary64} (hz : z.magnitude = 0) :
      (Value.number z).zeros = [!z.isNegative] := if_pos hz
  constructor
  · rw [zeros_of_zero hx, zeros_of_zero hy]
    rfl
  · show compare x.position y.position = _
    rw [zeros_of_zero hx, zeros_of_zero hy, Binary64.position, Binary64.position, hx, hy]
    cases x.isNegative <;> cases y.isNegative <;> decide

theorem sortsByZeros_array {xs ys : List Value}
    (ih : ∀ x ∈ xs, ∀ w : Value, x.Equal w → x.SortsByZeros w) (h : List.Forall₂ Equal xs ys) :
    SortsByZeros (.array xs) (.array ys) := by
  induction h with
  | nil => exact .refl (.array [])
  | @cons x y xs ys equal _ ihs =>
    obtain ⟨first, rest⟩ := List.forall_mem_cons.mp ih
    have head := first y equal
    have tail := ihs rest
    have lengths : (zerosOfItems xs).length = (zerosOfItems ys).length := tail.length_eq
    have order : totalCompareItems xs ys = compare (zerosOfItems xs) (zerosOfItems ys) :=
      tail.totalCompare_eq
    constructor
    · show (x.zeros ++ zerosOfItems xs).length = (y.zeros ++ zerosOfItems ys).length
      rw [List.length_append, List.length_append, head.length_eq, lengths]
    · show (x.totalCompare y).then (totalCompareItems xs ys) =
        compare (x.zeros ++ zerosOfItems xs) (y.zeros ++ zerosOfItems ys)
      rw [compare_append head.length_eq, head.totalCompare_eq, order]

/-- Sorting sees nothing of equal values but the signs of their zeros. -/
theorem Equal.sortsByZeros {v w : Value} (h : v.Equal w) : v.SortsByZeros w := by
  induction v using Value.induction generalizing w with
  | number x =>
    cases h with
    | number _ => exact .refl (.number x)
    | zeros hx hy => exact sortsByZeros_zeros hx hy
  | array xs ih =>
    cases h with
    | array items => exact sortsByZeros_array (fun x hx w => ih x hx) items
  | null | boolean _ | date _ | string _ =>
    cases h
    exact .refl _

end Value

namespace Document

/-- A sort key on which documents have equal values decides by the zeros in these, and leaves the rest
to the keys after it. So it never decides if the zeros have the same signs, and only then. -/
theorem compareBy_cons_of_same {a b : Document} {field : String} {v w : Value}
    (ha : a.get? field = some v) (hb : b.get? field = some w) (same : v.same w = true) :
    (∀ direction keys, compareBy ((field, direction) :: keys) a b =
        (direction.apply (compare v.zeros w.zeros)).then (compareBy keys a b)) ∧
      ((∀ direction keys, compareBy ((field, direction) :: keys) a b = compareBy keys a b) ↔
        v.zeros = w.zeros) := by
  have decided (direction : Direction) (keys : List (String × Direction)) :
      compareBy ((field, direction) :: keys) a b =
        (direction.apply (compare v.zeros w.zeros)).then (compareBy keys a b) := by
    rw [compareBy, sortValue, sortValue, ha, hb, Option.getD_some, Option.getD_some,
      (Value.same_iff_equal.mp same).sortsByZeros.totalCompare_eq]
  refine ⟨decided, fun ties => ?_, fun zeros direction keys => ?_⟩
  · have tie : compareBy [(field, .ascending)] a b = .eq := ties .ascending []
    rw [decided, compareBy, Ordering.then_eq_eq] at tie
    exact Std.compare_eq_iff_eq.mp tie.1
  · rw [decided, zeros, Std.compare_self]
    cases direction <;> rfl

/-- A measurement: from where to where, and how often. -/
def measured (span : Value) (times : Nat) : Document :=
  .ofList [("span", span), ("times", .number (.ofInt times))]

/-- A span from minus zero, inside an array, to a zero that may be a minus zero. -/
def spanTo (minus : Bool) : Value := .array [.array [.number (.zero true)], .number (.zero minus)]

theorem compareBy_cons_of_same_measured :
    (spanTo false).same (spanTo true) = true ∧ (spanTo false).zeros ≠ (spanTo true).zeros ∧
      (∀ keys, compareBy (("span", .descending) :: keys) (measured (spanTo false) 1)
        (measured (spanTo true) 2) = .lt) ∧
      ∀ direction keys, compareBy (("span", direction) :: keys) (measured (spanTo false) 1)
        (measured (spanTo false) 2) =
          compareBy keys (measured (spanTo false) 1) (measured (spanTo false) 2) := by
  have same : (spanTo false).same (spanTo true) = true := by decide +kernel
  have itself : (spanTo false).same (spanTo false) = true := by decide +kernel
  obtain ⟨decided, -⟩ := @compareBy_cons_of_same (measured (spanTo false) 1)
    (measured (spanTo true) 2) "span" _ _ rfl rfl same
  obtain ⟨-, ties_iff⟩ := @compareBy_cons_of_same (measured (spanTo false) 1)
    (measured (spanTo false) 2) "span" _ _ rfl rfl itself
  refine ⟨same, by decide +kernel, fun keys => ?_, ties_iff.mpr rfl⟩
  rw [decided, show compare (spanTo false).zeros (spanTo true).zeros = .gt by decide +kernel]
  rfl

/-- It is not so that equal values always tie: minus zero comes before zero. -/
theorem not_forall_tie_of_same :
    ¬ ∀ (a b : Document) (field : String) (v w : Value),
        a.get? field = some v → b.get? field = some w → v.same w = true →
      ∀ direction keys, compareBy ((field, direction) :: keys) a b = compareBy keys a b := by
  intro h
  have tie := h (measured (.number (.zero false)) 1) (measured (.number (.zero true)) 2) "span"
    (.number (.zero false)) (.number (.zero true)) rfl rfl (by decide +kernel) .ascending
    [("times", .ascending)]
  exact absurd tie (by decide +kernel)

end Document

end Docstore
