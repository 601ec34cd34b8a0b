import Docstore.Value.Order
import Mathlib.Data.List.Forall2

/-!
# Equal values

`Value.same` is the check by which filters compare two values. `Value.Equal` says which values are
equal, a rule for each kind: a NaN is equal to nothing, the two zeros are equal, and arrays are equal
when their items are, one by one. The check finds just these (`Value.same_iff_equal`).

So equal values differ at most in the signs of their zeros.
-/

namespace Docstore

namespace Binary64

variable {x y : Binary64}

theorem isNaN_of_magnitude_eq_zero (zero : x.magnitude = 0) : x.isNaN = false := by
  rw [isNaN, zero]
  rfl

/-- Only the two zeros share a rank. -/
theorem rank_eq_iff : x.rank = y.rank ↔ x = y ∨ x.magnitude = 0 ∧ y.magnitude = 0 := by
  constructor
  · intro ranks
    by_cases signs : x.isNegative = y.isNegative
    · refine .inl (eq_of_magnitude_eq signs ?_)
      rw [rank, rank, signs] at ranks
      split at ranks <;> omega
    · unfold rank at ranks
      cases hx : x.isNegative <;> cases hy : y.isNegative <;> simp [hx, hy] at signs ranks <;> omega
  · rintro (rfl | ⟨hx, hy⟩)
    · rfl
    · rw [rank, rank, hx, hy, Int.natCast_zero, Int.neg_zero, ite_self, ite_self]

/-- Numbers have the same value when they are the same number, other than a NaN, or two zeros. -/
theorem sameValue_iff :
    x.sameValue y = true ↔ x = y ∧ x.isNaN = false ∨ x.magnitude = 0 ∧ y.magnitude = 0 := by
  have by_rank : x.sameValue y = true ↔ (x.isNaN = false ∧ y.isNaN = false) ∧ x.rank = y.rank := by
    rw [← Bool.or_eq_false_iff, sameValue, compare?]
    cases x.isNaN || y.isNaN <;> simp
  rw [by_rank, rank_eq_iff]
  constructor
  · rintro ⟨⟨not_nan, -⟩, same | zeros⟩
    · exact .inl ⟨same, not_nan⟩
    · exact .inr zeros
  · rintro (⟨rfl, not_nan⟩ | ⟨hx, hy⟩)
    · exact ⟨⟨not_nan, not_nan⟩, .inl rfl⟩
    · exact ⟨⟨isNaN_of_magnitude_eq_zero hx, isNaN_of_magnitude_eq_zero hy⟩, .inr ⟨hx, hy⟩⟩

/-- No other number has the value of a number that is neither zero nor a NaN. -/
theorem sameValue_iff_eq (nonzero : y.magnitude ≠ 0) (number : y.isNaN = false) :
    x.sameValue y = true ↔ x = y := by
  rw [sameValue_iff]
  constructor
  · rintro (⟨same, -⟩ | ⟨-, zero⟩)
    · exact same
    · exact absurd zero nonzero
  · rintro rfl
    exact .inl ⟨rfl, number⟩

end Binary64

namespace Value

/-! ## Which values are equal -/

/-- Values that are equal: of one kind and, but for the sign of a zero, with the same content. A NaN is
equal to nothing. -/
inductive Equal : Value → Value → Prop where
  | null : Equal .null .null
  | boolean (b : Bool) : Equal (.boolean b) (.boolean b)
  | number {x : Binary64} (h : x.isNaN = false) : Equal (.number x) (.number x)
  | zeros {x y : Binary64} (hx : x.magnitude = 0) (hy : y.magnitude = 0) :
    Equal (.number x) (.number y)
  | date (t : Instant) : Equal (.date t) (.date t)
  | string (s : String) : Equal (.string s) (.string s)
  | array {xs ys : List Value} (h : List.Forall₂ Equal xs ys) : Equal (.array xs) (.array ys)

theorem sameItems_iff {R : Value → Value → Prop} {xs ys : List Value}
    (ih : ∀ x ∈ xs, ∀ y, x.same y = true ↔ R x y) :
    sameItems xs ys = true ↔ List.Forall₂ R xs ys := by
  induction xs generalizing ys with
  | nil => cases ys <;> simp [sameItems]
  | cons x xs ihs =>
    obtain ⟨first, rest⟩ := List.forall_mem_cons.mp ih
    cases ys with
    | nil => simp [sameItems]
    | cons y ys => rw [sameItems, Bool.and_eq_true, first y, ihs rest, List.forall₂_cons]

/-- Filters find two values the same when they are equal. -/
theorem same_iff_equal {v w : Value} : v.same w = true ↔ v.Equal w := by
  induction v using Value.induction generalizing w with
  | null =>
    cases w with
    | null => exact iff_of_true rfl .null
    | _ => exact iff_of_false nofun nofun
  | boolean a =>
    cases w with
    | boolean b =>
      show (a == b) = true ↔ _
      rw [beq_iff_eq]
      exact ⟨fun h => h ▸ .boolean a, fun | .boolean _ => rfl⟩
    | _ => exact iff_of_false nofun nofun
  | number x =>
    cases w with
    | number y =>
      show x.sameValue y = true ↔ _
      rw [Binary64.sameValue_iff]
      constructor
      · rintro (⟨rfl, not_nan⟩ | ⟨hx, hy⟩)
        · exact .number not_nan
        · exact .zeros hx hy
      · intro h
        cases h with
        | number not_nan => exact .inl ⟨rfl, not_nan⟩
        | zeros hx hy => exact .inr ⟨hx, hy⟩
    | _ => exact iff_of_false nofun nofun
  | date s =>
    cases w with
    | date t =>
      show (s == t) = true ↔ _
      rw [beq_iff_eq]
      exact ⟨fun h => h ▸ .date s, fun | .date _ => rfl⟩
    | _ => exact iff_of_false nofun nofun
  | string s =>
    cases w with
    | string t =>
      show (s == t) = true ↔ _
      rw [beq_iff_eq]
      exact ⟨fun h => h ▸ .string s, fun | .string _ => rfl⟩
    | _ => exact iff_of_false nofun nofun
  | array xs ih =>
    cases w with
    | array ys => exact (sameItems_iff fun x hx _ => ih x hx).trans ⟨.array, fun | .array h => h⟩
    | _ => exact iff_of_false nofun nofun

end Value

end Docstore
