import Docstore.Proofs.Bson.Order
import Docstore.Query.Selection

/-!
# The order of sorting

`Value.totalCompare` is a linear order: swapping the values swaps the answer, it is transitive, and
it calls equal only what is the same value, bit for bit. `Document.compareBy` inherits the first two
for every list of sort keys, which is what a sort has to have.

Values of two kinds are ordered by their kinds alone (`Value.totalCompare_of_kind_ne`). So the laws are
proved inside one kind, by induction on the first value, and between kinds they are laws of the ranks.
-/

namespace Docstore

/-! ## Scalars -/

instance : Std.TransCmp (compare (α := Instant)) :=
  inferInstanceAs (Std.TransCmp (compareLex (compareOn Instant.seconds) (compareOn Instant.nanos)))

instance : Std.LawfulEqCmp (compare (α := Instant)) where
  compare_self := Instant.compare_eq_eq_iff.mpr rfl
  eq_of_compare := Instant.compare_eq_eq_iff.mp

instance : Std.TransCmp Binary64.totalCompare :=
  inferInstanceAs (Std.TransCmp (compareOn Binary64.position))

instance : Std.LawfulEqCmp Binary64.totalCompare where
  compare_self := Binary64.totalCompare_eq_eq_iff.mpr rfl
  eq_of_compare := Binary64.totalCompare_eq_eq_iff.mp

namespace Value

/-! ## Kinds -/

theorem totalCompare_of_kind_ne {v w : Value} (h : v.kind ≠ w.kind) :
    v.totalCompare w = compare v.kind.rank w.kind.rank := by
  cases v <;> cases w <;> first | rfl | exact absurd rfl h

theorem kind_eq_of_totalCompare {v w : Value} (h : v.totalCompare w = .eq) : v.kind = w.kind := by
  by_cases same : v.kind = w.kind
  · exact same
  · rw [totalCompare_of_kind_ne same] at h
    exact Kind.rank_injective (Nat.compare_eq_eq.mp h)

theorem rank_le_of_lt {v w : Value} (h : v.totalCompare w = .lt) : v.kind.rank ≤ w.kind.rank := by
  by_cases same : v.kind = w.kind
  · exact Nat.le_of_eq (congrArg Kind.rank same)
  · rw [totalCompare_of_kind_ne same] at h
    exact Nat.le_of_lt (Nat.compare_eq_lt.mp h)

theorem lt_of_rank_lt {v w : Value} (h : v.kind.rank < w.kind.rank) : v.totalCompare w = .lt := by
  have other : v.kind ≠ w.kind := fun same => Nat.ne_of_lt h (congrArg Kind.rank same)
  rw [totalCompare_of_kind_ne other]
  exact Nat.compare_eq_lt.mpr h

/-! ## Equal values -/

theorem totalCompareItems_self {items : List Value} (ih : ∀ v ∈ items, v.totalCompare v = .eq) :
    totalCompareItems items items = .eq := by
  induction items with
  | nil => rfl
  | cons v vs ihs =>
    obtain ⟨first, rest⟩ := List.forall_mem_cons.mp ih
    exact Ordering.then_eq_eq.mpr ⟨first, ihs rest⟩

theorem totalCompare_self (v : Value) : v.totalCompare v = .eq := by
  induction v using Value.induction with
  | null => rfl
  | boolean b => exact Std.ReflOrd.compare_self (a := b)
  | number x => exact Binary64.totalCompare_eq_eq_iff.mpr rfl
  | date t => exact Instant.compare_eq_eq_iff.mpr rfl
  | string s => exact Std.ReflOrd.compare_self (a := s)
  | array items ih => exact totalCompareItems_self ih

theorem eq_of_totalCompareItems {xs ys : List Value}
    (ih : ∀ x ∈ xs, ∀ y, x.totalCompare y = .eq → x = y) (h : totalCompareItems xs ys = .eq) :
    xs = ys := by
  induction xs generalizing ys with
  | nil =>
    cases ys with
    | nil => rfl
    | cons y ys => cases h
  | cons x xs ihs =>
    obtain ⟨first, rest⟩ := List.forall_mem_cons.mp ih
    cases ys with
    | nil => cases h
    | cons y ys =>
      obtain ⟨same, tails⟩ := Ordering.then_eq_eq.mp h
      rw [first y same, ihs rest tails]

/-- Only one value has the place of a value. -/
theorem eq_of_totalCompare {v w : Value} (h : v.totalCompare w = .eq) : v = w := by
  have kinds := kind_eq_of_totalCompare h
  induction v using Value.induction generalizing w with
  | null =>
    cases w <;> cases kinds
    rfl
  | boolean a =>
    cases w <;> cases kinds
    rw [Std.LawfulEqOrd.eq_of_compare (show compare a _ = .eq from h)]
  | number x =>
    cases w <;> cases kinds
    rw [Binary64.totalCompare_eq_eq_iff.mp h]
  | date s =>
    cases w <;> cases kinds
    rw [Instant.compare_eq_eq_iff.mp h]
  | string s =>
    cases w <;> cases kinds
    rw [Std.LawfulEqOrd.eq_of_compare (show compare s _ = .eq from h)]
  | array xs ih =>
    cases w <;> cases kinds
    refine congrArg array (eq_of_totalCompareItems (fun x hx y same => ?_) h)
    exact ih x hx same (kind_eq_of_totalCompare same)

/-! ## Swapped values -/

theorem totalCompareItems_swap {xs ys : List Value}
    (ih : ∀ x ∈ xs, ∀ y, x.totalCompare y = (y.totalCompare x).swap) :
    totalCompareItems xs ys = (totalCompareItems ys xs).swap := by
  induction xs generalizing ys with
  | nil => cases ys <;> rfl
  | cons x xs ihs =>
    obtain ⟨first, rest⟩ := List.forall_mem_cons.mp ih
    cases ys with
    | nil => rfl
    | cons y ys => rw [totalCompareItems, totalCompareItems, Ordering.swap_then, first y, ihs rest]

theorem totalCompare_swap (v w : Value) : v.totalCompare w = (w.totalCompare v).swap := by
  induction v using Value.induction generalizing w with
  | null => cases w <;> rfl
  | boolean a =>
    cases w with
    | boolean b => exact Std.OrientedOrd.eq_swap (a := a) (b := b)
    | _ => rfl
  | number x =>
    cases w with
    | number y => exact Std.OrientedOrd.eq_swap (a := x.position) (b := y.position)
    | _ => rfl
  | date s =>
    cases w with
    | date t => exact Std.OrientedOrd.eq_swap (a := s) (b := t)
    | _ => rfl
  | string s =>
    cases w with
    | string t => exact Std.OrientedOrd.eq_swap (a := s) (b := t)
    | _ => rfl
  | array xs ih =>
    cases w with
    | array ys => exact totalCompareItems_swap ih
    | _ => rfl

/-! ## Chains of values -/

theorem totalCompareItems_lt_trans {xs ys zs : List Value}
    (ih : ∀ x ∈ xs, ∀ y z, x.totalCompare y = .lt → y.totalCompare z = .lt →
      x.totalCompare z = .lt)
    (hxy : totalCompareItems xs ys = .lt) (hyz : totalCompareItems ys zs = .lt) :
    totalCompareItems xs zs = .lt := by
  induction xs generalizing ys zs with
  | nil =>
    cases zs with
    | nil => cases ys <;> cases hyz
    | cons z zs => rfl
  | cons x xs ihs =>
    obtain ⟨first, rest⟩ := List.forall_mem_cons.mp ih
    cases ys with
    | nil => cases hxy
    | cons y ys =>
      cases zs with
      | nil => cases hyz
      | cons z zs =>
        rw [totalCompareItems, Ordering.then_eq_lt] at hxy hyz ⊢
        rcases hxy with hxy | ⟨exy, hxy⟩
        · rcases hyz with hyz | ⟨eyz, -⟩
          · exact .inl (first y z hxy hyz)
          · exact .inl (eq_of_totalCompare eyz ▸ hxy)
        · rcases hyz with hyz | ⟨eyz, hyz⟩
          · exact .inl (eq_of_totalCompare exy ▸ hyz)
          · exact .inr ⟨eq_of_totalCompare exy ▸ eyz, ihs rest hxy hyz⟩

/-- No kind lies between two equal ones, so a chain that begins and ends in one kind stays in it. -/
theorem lt_of_chain {u v w : Value} (huv : u.totalCompare v = .lt) (hvw : v.totalCompare w = .lt)
    (inside : u.kind = v.kind → v.kind = w.kind → u.totalCompare w = .lt) :
    u.totalCompare w = .lt := by
  have ruv := rank_le_of_lt huv
  have rvw := rank_le_of_lt hvw
  by_cases apart : u.kind.rank < w.kind.rank
  · exact lt_of_rank_lt apart
  · exact inside (Kind.rank_injective (by omega)) (Kind.rank_injective (by omega))

theorem totalCompare_lt_trans {u v w : Value} (huv : u.totalCompare v = .lt)
    (hvw : v.totalCompare w = .lt) : u.totalCompare w = .lt := by
  refine lt_of_chain huv hvw fun kuv kvw => ?_
  induction u using Value.induction generalizing v w with
  | null =>
    cases v <;> cases kuv
    cases huv
  | boolean a =>
    cases v <;> cases kuv
    cases w <;> cases kvw
    show compare a _ = .lt
    exact Std.TransCmp.lt_trans (show compare a _ = .lt from huv) hvw
  | number x =>
    cases v <;> cases kuv
    cases w <;> cases kvw
    show x.totalCompare _ = .lt
    exact Std.TransCmp.lt_trans (show x.totalCompare _ = .lt from huv) hvw
  | date r =>
    cases v <;> cases kuv
    cases w <;> cases kvw
    show compare r _ = .lt
    exact Std.TransCmp.lt_trans (show compare r _ = .lt from huv) hvw
  | string r =>
    cases v <;> cases kuv
    cases w <;> cases kvw
    show compare r _ = .lt
    exact Std.TransCmp.lt_trans (show compare r _ = .lt from huv) hvw
  | array xs ih =>
    cases v <;> cases kuv
    cases w <;> cases kvw
    refine totalCompareItems_lt_trans (fun x hx y z hxy hyz => ?_) huv hvw
    exact lt_of_chain hxy hyz (ih x hx hxy hyz)

instance : Std.LawfulEqCmp totalCompare where
  compare_self {v} := totalCompare_self v
  eq_of_compare := eq_of_totalCompare

instance : Std.TransCmp totalCompare where
  eq_swap {v w} := totalCompare_swap v w
  isLE_trans {u v w} huv hvw := by
    rcases Ordering.isLE_iff_eq_lt_or_eq_eq.mp huv with luv | euv
    · rcases Ordering.isLE_iff_eq_lt_or_eq_eq.mp hvw with lvw | evw
      · rw [totalCompare_lt_trans luv lvw]
        rfl
      · rwa [← eq_of_totalCompare evw]
    · rwa [eq_of_totalCompare euv]

end Value

/-! ## Documents -/

/-- An order seen in a direction is an order. -/
theorem Direction.transCmp_apply {α : Type} {cmp : α → α → Ordering} (order : Std.TransCmp cmp)
    (direction : Direction) : Std.TransCmp fun a b => direction.apply (cmp a b) := by
  cases direction with
  | ascending => exact order
  | descending =>
    have opposite : (fun a b => (cmp a b).swap) = fun a b => cmp b a := by
      funext a b
      exact order.eq_swap.symm
    show Std.TransCmp fun a b => (cmp a b).swap
    rw [opposite]
    exact Std.TransCmp.opposite

namespace Document

theorem transCmp_sortValue (field : String) :
    Std.TransCmp fun a b : Document => (a.sortValue field).totalCompare (b.sortValue field) where
  eq_swap := Value.totalCompare_swap _ _
  isLE_trans hab hbc := Std.TransCmp.isLE_trans hab hbc

/-- By any sort keys, of two documents one comes first or they tie, and this is transitive. -/
theorem transCmp_compareBy (keys : List (String × Direction)) : Std.TransCmp (compareBy keys) := by
  induction keys with
  | nil => exact { eq_swap := rfl, isLE_trans := fun _ _ => rfl }
  | cons key keys ih =>
    have first := key.2.transCmp_apply (transCmp_sortValue key.1)
    exact inferInstanceAs (Std.TransCmp (compareLex
      (fun a b => key.2.apply ((a.sortValue key.1).totalCompare (b.sortValue key.1)))
      (compareBy keys)))

end Document

/-! ## Sorting -/

/-- Of any two, one does not come after the other. -/
theorem isLE_total {α : Type} {cmp : α → α → Ordering} [Std.OrientedCmp cmp] (a b : α) :
    ((cmp a b).isLE || (cmp b a).isLE) = true := by
  have swap : cmp b a = (cmp a b).swap := Std.OrientedCmp.eq_swap
  rw [swap]
  cases cmp a b <;> rfl

namespace StoredDocument

theorem transCmp_fields (keys : List (String × Direction)) :
    Std.TransCmp fun a b : StoredDocument => Document.compareBy keys a.fields b.fields :=
  have := Document.transCmp_compareBy keys
  { eq_swap := Std.OrientedCmp.eq_swap, isLE_trans := Std.TransCmp.isLE_trans }

/-- After sorting, no document comes before one that it belongs after. -/
theorem pairwise_isLE_sortBy (keys : List (String × Direction)) (ds : List StoredDocument) :
    (sortBy keys ds).Pairwise fun a b => (Document.compareBy keys a.fields b.fields).isLE = true := by
  have order := transCmp_fields keys
  have trans (a b c : StoredDocument) :
      (Document.compareBy keys a.fields b.fields).isLE = true →
        (Document.compareBy keys b.fields c.fields).isLE = true →
          (Document.compareBy keys a.fields c.fields).isLE = true := order.isLE_trans
  exact List.pairwise_mergeSort trans isLE_total ds

end StoredDocument

/-- The order of sorting is linear on values, and on documents it is total and transitive for any sort
keys, with ties. So sorting by it ends with the same documents, each after those that belong before. -/
theorem sortOrder_linear :
    (∀ v : Value, v.totalCompare v = .eq) ∧
      (∀ v w : Value, v.totalCompare w = (w.totalCompare v).swap) ∧
      (∀ u v w : Value, (u.totalCompare v).isLE = true → (v.totalCompare w).isLE = true →
        (u.totalCompare w).isLE = true) ∧
      (∀ v w : Value, v.totalCompare w = .eq ↔ v = w) ∧
      ∀ keys : List (String × Direction),
        (∀ a, Document.compareBy keys a a = .eq) ∧
          (∀ a b, Document.compareBy keys a b = (Document.compareBy keys b a).swap) ∧
          (∀ a b c, (Document.compareBy keys a b).isLE = true →
            (Document.compareBy keys b c).isLE = true → (Document.compareBy keys a c).isLE = true) ∧
          ∀ ds, (StoredDocument.sortBy keys ds).Perm ds ∧ (StoredDocument.sortBy keys ds).Pairwise
            fun a b => (Document.compareBy keys a.fields b.fields).isLE = true := by
  refine ⟨Value.totalCompare_self, Value.totalCompare_swap,
    fun u v w => Std.TransCmp.isLE_trans, fun v w => ?_, fun keys => ?_⟩
  · constructor
    · exact Value.eq_of_totalCompare
    · rintro rfl
      exact Value.totalCompare_self v
  · have order := Document.transCmp_compareBy keys
    refine ⟨fun a => Std.ReflCmp.compare_self, fun a b => order.eq_swap,
      fun a b c => order.isLE_trans, fun ds => ⟨?_, StoredDocument.pairwise_isLE_sortBy keys ds⟩⟩
    exact List.mergeSort_perm ds _

end Docstore
