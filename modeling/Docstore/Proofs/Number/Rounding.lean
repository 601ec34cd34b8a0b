import Docstore.Number.Rounding

/-!
# Rounding what needs no rounding

A ratio that is a binary64 number already is rounded to that number (`Binary64.ofUnits_units`). So an
integer that was read off a number is that number again (`Binary64.ofInt_of_toInt?`). Only the sign of
zero is lost on the way, since no integer has it (`Binary64.withPlusZero`).
-/

namespace Docstore

/-- A multiple is divided without a rest. -/
theorem roundHalfEven_mul (q : Nat) {d : Nat} (positive : 0 < d) : roundHalfEven (q * d) d = q := by
  simp [roundHalfEven, Nat.mul_div_cancel q positive, positive]

namespace Binary64

/-- 53 digits, scaled: the leading one is one, or nothing was scaled. -/
theorem roundedSteps_of_scaled {q k : Nat} (small : q < 2 * fractionWeight)
    (scaled : fractionWeight ≤ q ∨ k = 0) : roundedSteps 53 0 (q * Nat.pow 2 k) 1 = (k, q) := by
  have small : q < 2 ^ 53 := Nat.lt_of_lt_of_eq small (by decide)
  have steps : max 0 (Nat.log2 (q * 2 ^ k / 1) + 1 - 53) = k := by
    rw [Nat.div_one, Nat.zero_max]
    rcases scaled with normal | rfl
    · have normal : 2 ^ 52 ≤ q := Nat.le_trans (by decide) normal
      have q_pos : 0 < q := Nat.lt_of_lt_of_le (by decide) normal
      have leading : Nat.log2 (q * 2 ^ k) = 52 + k := by
        rw [Nat.log2_eq_iff (Nat.ne_of_gt (Nat.mul_pos q_pos (Nat.two_pow_pos k))), Nat.pow_add,
          Nat.add_right_comm, Nat.pow_add]
        exact ⟨Nat.mul_le_mul_right _ normal, Nat.mul_lt_mul_of_pos_right small (Nat.two_pow_pos k)⟩
      omega
    · rw [Nat.pow_zero, Nat.mul_one]
      by_cases zero : q = 0
      · rw [zero]
        rfl
      · have := (Nat.log2_lt zero).mpr small
        omega
  have steps : max 0 (Nat.log2 (q * Nat.pow 2 k / 1) + 1 - 53) = k := steps
  unfold roundedSteps
  simp only [steps, Nat.one_mul]
  exact congrArg (Prod.mk k) (roundHalfEven_mul q (Nat.two_pow_pos k))

/-- A magnitude is its worth, rounded. -/
theorem ofUnits_units (negative : Bool) {m : Nat} (finite : m < infiniteMagnitude) :
    ofUnits negative (units m) 1 = ofMagnitude negative m := by
  have rounded {q k : Nat} (small : q < 2 * fractionWeight) (scaled : fractionWeight ≤ q ∨ k = 0)
      (worth : units m = q * Nat.pow 2 k) (place : k * fractionWeight + q = m) :
      ofUnits negative (units m) 1 = ofMagnitude negative m := by
    rw [ofUnits, worth, roundedSteps_of_scaled small scaled]
    simp only [place, Nat.min_eq_left (Nat.le_of_lt finite)]
  have fraction : m % fractionWeight < fractionWeight := Nat.mod_lt m (by decide)
  by_cases subnormal : m < fractionWeight
  · refine rounded (q := m) (k := 0) (by omega) (.inr rfl) ?_ ?_
    · rw [units, if_pos subnormal]
      exact (Nat.mul_one m).symm
    · rw [Nat.zero_mul, Nat.zero_add]
  · have exponent : 1 ≤ m / fractionWeight :=
      (Nat.le_div_iff_mul_le (by decide)).mpr (by omega)
    refine rounded (q := fractionWeight + m % fractionWeight) (k := m / fractionWeight - 1) (by omega)
      (.inl (Nat.le_add_right _ _)) ?_ ?_
    · rw [units, if_neg subnormal]
    · have split_at := Nat.div_add_mod m fractionWeight
      rw [Nat.mul_comm] at split_at
      rw [← Nat.add_assoc, ← Nat.succ_mul, Nat.succ_eq_add_one, Nat.sub_add_cancel exponent, split_at]

/-- A number is its sign and its magnitude. -/
theorem ofMagnitude_magnitude (x : Binary64) : ofMagnitude x.isNegative x.magnitude = x := by
  have x_lt := x.bits.toNat_lt
  have same_bits : x.magnitude % signWeight + (if x.isNegative then signWeight else 0) =
      x.bits.toNat := by
    by_cases negative : 9223372036854775808 ≤ x.bits.toNat <;>
      simp only [magnitude, isNegative, signWeight, negative, decide_true, decide_false, if_true,
        Bool.false_eq_true, if_false] <;> omega
  rw [ofMagnitude, same_bits, UInt64.ofNat_toNat]

/-- A number that is not zero is worth something. -/
theorem units_pos {m : Nat} (positive : 0 < m) : 0 < units m := by
  rw [units]
  split
  · exact positive
  · exact Nat.mul_pos (Nat.add_pos_left (by decide) _) (Nat.two_pow_pos _)

/-- A number, with zero in place of minus zero. -/
def withPlusZero (x : Binary64) : Binary64 := if x.magnitude = 0 then zero false else x

theorem withPlusZero_of_ne_zero {x : Binary64} (h : x.magnitude ≠ 0) : x.withPlusZero = x :=
  if_neg h

theorem isFinite_of_toInt? {x : Binary64} {n : Int} (whole : x.toInt? = some n) :
    x.isFinite = true := by
  unfold toInt? at whole
  split at whole
  · next h => exact h.1
  · cases whole

theorem toInt?_of_magnitude_eq_zero {x : Binary64} (h : x.magnitude = 0) : x.toInt? = some 0 := by
  have finite : x.isFinite = true := by
    rw [isFinite, h]
    decide
  have worthless : units 0 = 0 := rfl
  rw [toInt?, h, worthless]
  -- The weight is a numeral of over a thousand bits; no step below is to look at it.
  generalize unitsPerOne = weight
  simp [finite]

theorem ofInt_zero : ofInt 0 = zero false := by
  have worthless : units 0 = 0 := rfl
  have rounded := ofUnits_units false (m := 0) (by decide)
  rw [worthless] at rounded
  rw [ofInt, Int.natAbs_zero, Nat.zero_mul]
  exact rounded

/-- The whole number that a number is stands for that number. -/
theorem ofInt_of_toInt? {x : Binary64} {n : Int} (whole : x.toInt? = some n) :
    ofInt n = x.withPlusZero := by
  by_cases zero : x.magnitude = 0
  · rw [toInt?_of_magnitude_eq_zero zero] at whole
    cases whole
    rw [withPlusZero, if_pos zero, ofInt_zero]
  rw [withPlusZero_of_ne_zero zero]
  obtain ⟨⟨finite, multiple⟩, signed⟩ :
      (x.isFinite = true ∧ units x.magnitude % unitsPerOne = 0) ∧
        (if x.isNegative then -((units x.magnitude / unitsPerOne : Nat) : Int)
          else (units x.magnitude / unitsPerOne : Nat)) = n := by
    unfold toInt? at whole
    split at whole
    · exact ⟨‹_›, Option.some.inj whole⟩
    · cases whole
  have worth : units x.magnitude / unitsPerOne * unitsPerOne = units x.magnitude :=
    Nat.div_mul_cancel (Nat.dvd_of_mod_eq_zero multiple)
  have not_zero : 0 < units x.magnitude / unitsPerOne := by
    refine Nat.pos_of_ne_zero fun none => ?_
    rw [none, Nat.zero_mul] at worth
    exact Nat.ne_of_gt (units_pos (Nat.pos_of_ne_zero zero)) worth.symm
  have size : n.natAbs = units x.magnitude / unitsPerOne := by
    subst signed
    split <;> omega
  have sign : decide (n < 0) = x.isNegative := by
    subst signed
    generalize units x.magnitude / unitsPerOne = size at not_zero
    cases x.isNegative with
    | false => simp
    | true =>
      simp
      omega
  rw [ofInt, size, sign, worth, ofUnits_units _ (of_decide_eq_true finite), ofMagnitude_magnitude]

end Binary64

end Docstore
