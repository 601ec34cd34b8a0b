import Docstore.Proofs.Query.Malformed
import Docstore.Proofs.Store.Listing

/-!
# The order of constraints

A list of constraints is used twice, as checks that end at the first one that is not met, and as sort
keys. The order matters for the keys alone: without malformed constraints, checks in any order find the
same documents (`Constraint.allHold_congr`), and with the keys in the same order these are listed in the
same order.

So nothing changes with a comparison that is made again, or with a further sort key on a field that is
sorted on already. Where the checks come to such a constraint, it was met before; and where the sort
comes to such a key, the documents tie in its field, whatever its direction
(`Document.compareBy_append_cons`). A malformed constraint may stop the checks earlier when it is
repeated further ahead, and not when it is repeated later.
-/

namespace Docstore

/-! ## Checks -/

namespace Constraint

variable {d : Document} {c : Constraint} {cs ds before : List Constraint}

/-- The same constraints are met or not in any order, and however often each is listed. -/
theorem allHold_congr (fine : ∀ c ∈ cs, ¬ c.Malformed) (same : ∀ c, c ∈ cs ↔ c ∈ ds) :
    allHold d cs = allHold d ds := by
  have fine' : ∀ c ∈ ds, ¬ c.Malformed := fun c listed => fine c ((same c).mpr listed)
  obtain ⟨met, checked⟩ := @exists_allHold d cs fine
  obtain ⟨met', checked'⟩ := @exists_allHold d ds fine'
  have met_iff : allHold d cs = .ok true ↔ allHold d ds = .ok true := by
    rw [allHold_eq_ok_true_iff, allHold_eq_ok_true_iff]
    simp only [same]
  rw [checked, checked', Except.ok.injEq, Except.ok.injEq] at met_iff
  rw [checked, checked', Bool.eq_iff_iff.mpr met_iff]

/-- A constraint is not noticed where it is met because the ones before it are. -/
theorem allHold_append_cons (implied : (∀ b ∈ before, b.Met d) → c.Met d) :
    allHold d (before ++ c :: cs) = allHold d (before ++ cs) := by
  rw [allHold_append, allHold_append]
  cases checked : allHold d before with
  | error failure => rfl
  | ok met =>
    cases met with
    | false => rfl
    | true =>
      have holds := holds_eq_ok_true_iff.mpr (implied (allHold_eq_ok_true_iff.mp checked))
      rw [ok_bind, ok_bind, if_pos rfl, if_pos rfl, allHold, holds]
      rfl

end Constraint

/-! ## Sort keys -/

theorem Direction.apply_eq_eq_iff {direction : Direction} {o : Ordering} :
    direction.apply o = .eq ↔ o = .eq := by
  cases direction with
  | ascending => exact Iff.rfl
  | descending => exact Ordering.swap_eq_eq

namespace Document

variable {a b : Document} {field : String} {keys : List (String × Direction)}

theorem compareBy_append (keys others : List (String × Direction)) (a b : Document) :
    compareBy (keys ++ others) a b = (compareBy keys a b).then (compareBy others a b) := by
  induction keys with
  | nil => rfl
  | cons key keys ih => rw [List.cons_append, compareBy, compareBy, ih, Ordering.then_assoc]

/-- Documents that tie by sort keys tie in the field of each. -/
theorem totalCompare_eq_of_compareBy_eq (tie : compareBy keys a b = .eq)
    (sorted : field ∈ keys.map Prod.fst) :
    (a.sortValue field).totalCompare (b.sortValue field) = .eq := by
  induction keys with
  | nil => cases sorted
  | cons key keys ih =>
    rw [compareBy, Ordering.then_eq_eq] at tie
    obtain ⟨first, rest⟩ := tie
    rcases List.mem_cons.mp sorted with rfl | later
    · exact Direction.apply_eq_eq_iff.mp first
    · exact ih rest later

/-- A sort key on a field that is sorted on before does not decide. -/
theorem compareBy_append_cons (sorted : field ∈ keys.map Prod.fst) (direction : Direction)
    (others : List (String × Direction)) (a b : Document) :
    compareBy (keys ++ (field, direction) :: others) a b = compareBy (keys ++ others) a b := by
  rw [compareBy_append, compareBy_append]
  cases place : compareBy keys a b with
  | lt | gt => rfl
  | eq =>
    have tie := totalCompare_eq_of_compareBy_eq place sorted
    rw [compareBy, Direction.apply_eq_eq_iff.mpr tie]
    rfl

end Document

/-! ## Selection -/

namespace StoredDocument

variable {cs ds : List Constraint}

/-- Constraints that have the same checks and sort in the same way select the same. -/
theorem select_congr (checks : ∀ d, Constraint.allHold d cs = Constraint.allHold d ds)
    (order : ∀ a b, Document.compareBy (Constraint.sortKeys cs) a b =
      Document.compareBy (Constraint.sortKeys ds) a b) (all : List StoredDocument) :
    select cs all = select ds all := by
  have filtered : filter cs all = filter ds all := by
    induction all with
    | nil => rfl
    | cons x all ih => rw [filter, filter, checks, ih]
  have sorted : sortBy (Constraint.sortKeys cs) = sortBy (Constraint.sortKeys ds) := by
    unfold sortBy
    simp only [order]
  rw [select, select, filtered, sorted]

end StoredDocument

namespace Store

open Constraint (sortKeys)

/-- Of the order of constraints only that of the sort keys counts: without malformed ones, those in
another order have the same documents listed, if they sort by the same keys. And a constraint that only
says again what others say counts for nothing: a comparison that is made again, later or, without
malformed ones, anywhere; and a sort key on a field that is sorted on before. -/
theorem only_sort_order_counts (s : Store) (collection fresh : String) :
    (∀ cs ds : List Constraint, cs.Perm ds → (∀ c ∈ cs, ¬ c.Malformed) → sortKeys cs = sortKeys ds →
        ∃ r, (answer fresh (.list collection cs) s).1 = .ok r ∧
          (answer fresh (.list collection ds) s).1 = .ok r) ∧
      (∀ before after field op operand,
        .compare field op operand ∈ before ∨
            .compare field op operand ∈ after ∧ (∀ c ∈ before ++ after, ¬ c.Malformed) →
          (answer fresh (.list collection (before ++ .compare field op operand :: after)) s).1 =
            (answer fresh (.list collection (before ++ after)) s).1) ∧
      ∀ before after field direction, field ∈ (sortKeys before).map Prod.fst →
        (answer fresh (.list collection (before ++ .orderBy field direction :: after)) s).1 =
          (answer fresh (.list collection (before ++ after)) s).1 := by
  refine ⟨?_, ?_, ?_⟩
  · intro cs ds reordered fine keys
    obtain ⟨r, selected⟩ := StoredDocument.exists_select fine (s.stored collection)
    refine ⟨r, selected, ?_⟩
    rw [← selected]
    apply StoredDocument.select_congr
    · intro d
      exact (Constraint.allHold_congr fine fun c => reordered.mem_iff).symm
    · intro a b
      rw [keys]
  · intro before after field op operand again
    apply StoredDocument.select_congr
    · intro d
      rcases again with earlier | ⟨later, fine⟩
      · exact Constraint.allHold_append_cons fun met => met _ earlier
      · -- Ahead of the other the comparison may end the checks sooner, but not with another answer.
        refine (Constraint.allHold_congr fine fun c => ?_).symm
        rw [List.mem_append, List.mem_append, List.mem_cons]
        grind
    · intro a b
      rw [Constraint.sortKeys_append, Constraint.sortKeys_append, Constraint.sortKeys]
  · intro before after field direction sorted
    apply StoredDocument.select_congr
    · intro d
      obtain ⟨key, listed, rfl⟩ := List.mem_map.mp sorted
      have earlier := Constraint.mem_sortKeys_iff.mp listed
      exact Constraint.allHold_append_cons fun met => met (.orderBy key.1 key.2) earlier
    · intro a b
      rw [Constraint.sortKeys_append, Constraint.sortKeys_append, Constraint.sortKeys]
      exact Document.compareBy_append_cons sorted direction (sortKeys after) a b

/-- The most viewed posts that are no drafts come out in the same order with the filter in between, and
with the filter and the first sort key, turned around, once more at the end. -/
theorem only_sort_order_counts_mostViewed :
    let published := Constraint.compare "status" .notEqual (.string "draft")
    let reordered := [.orderBy "views" .descending, published, .orderBy "status" .ascending]
    let repeated := reordered ++ [published, .orderBy "views" .ascending]
    mostViewed.Perm reordered ∧ (∀ c ∈ mostViewed, ¬ c.Malformed) ∧
      sortKeys mostViewed = sortKeys reordered ∧
      (answer "" (.list "posts" mostViewed) posts).1 = .ok mostViewedPosts ∧
      (answer "" (.list "posts" reordered) posts).1 = .ok mostViewedPosts ∧
      (answer "" (.list "posts" repeated) posts).1 = .ok mostViewedPosts := by
  intro published reordered repeated
  have swapped : mostViewed.Perm reordered := .swap _ _ _
  have fine : ∀ c ∈ mostViewed, ¬ c.Malformed := by decide
  have filtered : StoredDocument.filter mostViewed (posts.stored "posts") =
      .ok [⟨"p1", post "live" 5⟩, ⟨"p2", post "live" 5⟩, ⟨"p3", post "live" 9⟩,
        ⟨"p4", post "old" 9⟩] := rfl
  have answered : (answer "" (.list "posts" mostViewed) posts).1 = .ok mostViewedPosts :=
    StoredDocument.select_eq_ok filtered (by decide +kernel) (by decide +kernel)
      (by simp only [mostViewedPosts, List.mem_cons]; grind)
  obtain ⟨permuted, compared, sorted⟩ := only_sort_order_counts posts "posts" ""
  obtain ⟨r, before, after⟩ := permuted mostViewed reordered swapped fine rfl
  have r_eq : r = mostViewedPosts := Except.ok.inj (before.symm.trans answered)
  rw [r_eq] at after
  have once_more := compared reordered [] "status" .notEqual (.string "draft")
    (.inl (List.mem_cons_of_mem _ List.mem_cons_self))
  have turned := sorted (reordered ++ [published]) [] "views" .ascending List.mem_cons_self
  exact ⟨swapped, fine, rfl, answered, after, turned.trans (once_more.trans after)⟩

end Store

end Docstore
