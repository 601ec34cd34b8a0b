import Docstore.Proofs.Result
import Mathlib.Data.List.Forall2

/-!
# Results of a list

Queries, documents and schemas are read item by item, until the first item that cannot be read.
`List.mapM` is that walk. It succeeds when every item does, with the results in the order of the items
(`mapM_eq_ok_iff`), and it fails as the first item does that fails (`mapM_eq_error_iff`).
-/

namespace Docstore

variable {ε α β : Type _}

theorem bind_eq_error_iff {x : Except ε α} {f : α → Except ε β} {e : ε} :
    (x >>= f) = .error e ↔ x = .error e ∨ ∃ a, x = .ok a ∧ f a = .error e := by
  cases x with
  | error e' => simp
  | ok a => simp

theorem mapM_eq_ok_iff {f : α → Except ε β} {xs : List α} {ys : List β} :
    xs.mapM f = .ok ys ↔ List.Forall₂ (fun x y => f x = .ok y) xs ys := by
  induction xs generalizing ys with
  | nil =>
    rw [List.mapM_nil, List.forall₂_nil_left_iff]
    exact ⟨fun h => (Except.ok.inj h).symm, fun h => congrArg Except.ok h.symm⟩
  | cons x xs ih =>
    rw [List.mapM_cons, bind_eq_ok_iff, List.forall₂_cons_left_iff]
    constructor
    · rintro ⟨y, first, h⟩
      obtain ⟨ys', rest, h⟩ := bind_eq_ok_iff.mp h
      cases h
      exact ⟨y, ys', first, ih.mp rest, rfl⟩
    · rintro ⟨y, ys', first, rest, rfl⟩
      exact ⟨y, first, bind_eq_ok_iff.mpr ⟨ys', ih.mpr rest, rfl⟩⟩

theorem mapM_eq_error_iff {f : α → Except ε β} {xs : List α} {e : ε} :
    xs.mapM f = .error e ↔ ∃ before x after, xs = before ++ x :: after ∧
      (∀ y ∈ before, ∃ b, f y = .ok b) ∧ f x = .error e := by
  induction xs with
  | nil =>
    rw [List.mapM_nil]
    constructor
    · exact nofun
    · rintro ⟨before, x, after, split_at, -⟩
      exact absurd split_at (List.append_ne_nil_of_right_ne_nil before (List.cons_ne_nil x after)).symm
  | cons x xs ih =>
    rw [List.mapM_cons, bind_eq_error_iff]
    constructor
    · rintro (fails | ⟨b, first, h⟩)
      · exact ⟨[], x, xs, rfl, List.forall_mem_nil _, fails⟩
      · rcases bind_eq_error_iff.mp h with rest | ⟨bs, -, h⟩
        · obtain ⟨before, y, after, rfl, fine, fails⟩ := ih.mp rest
          exact ⟨x :: before, y, after, rfl, List.forall_mem_cons.mpr ⟨⟨b, first⟩, fine⟩, fails⟩
        · cases h
    · rintro ⟨before, y, after, split_at, fine, fails⟩
      cases before with
      | nil =>
        cases split_at
        exact .inl fails
      | cons z before =>
        cases split_at
        obtain ⟨⟨b, first⟩, fine⟩ := List.forall_mem_cons.mp fine
        have rest := ih.mpr ⟨before, y, after, rfl, fine, fails⟩
        exact .inr ⟨b, first, bind_eq_error_iff.mpr (.inl rest)⟩

end Docstore
