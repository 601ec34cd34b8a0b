import Docstore.Text.LetterCase

/-!
# Lower case and ASCII

In an ASCII text each character has a lower case of its own (`LetterCase.lower_of_isAscii`). The lower
case of another text is not ASCII, with one exception: the Kelvin sign has the lower case `k`. So a text
whose lower case is ASCII and has no `k` is ASCII itself (`LetterCase.isAscii_of_lower`).

What comes before the last character of a text does not change the lower case of that character, unless
it is a sigma (`LetterCase.lower_concat`).
-/

namespace Docstore.LetterCase

theorem lowerChar_of_isAscii {c : Char} (h : isAscii c = true) : lowerChar c = [c.toLower] :=
  if_pos h

theorem ne_sigma_of_isAscii {c : Char} (h : isAscii c = true) : c ≠ '\u03a3' := by
  rintro rfl
  cases h

theorem lowerAfter_cons_of_ne {before cs : List Char} {c : Char} (h : c ≠ '\u03a3') :
    lowerAfter before (c :: cs) = lowerChar c ++ lowerAfter (c :: before) cs := by
  rw [lowerAfter, if_neg h]

/-! ## ASCII texts -/

theorem lower_of_isAscii {cs : List Char} (h : ∀ c ∈ cs, isAscii c = true) :
    lower cs = cs.map Char.toLower := by
  have from_any : ∀ before, lowerAfter before cs = cs.map Char.toLower := by
    induction cs with
    | nil => exact fun _ => rfl
    | cons c cs ih =>
      intro before
      obtain ⟨first, rest⟩ := List.forall_mem_cons.mp h
      rw [lowerAfter_cons_of_ne (ne_sigma_of_isAscii first), lowerChar_of_isAscii first, ih rest]
      rfl
  exact from_any []

/-! ## Other texts -/

/-- No letter outside ASCII has a lower case inside, but for the Kelvin sign. -/
theorem lowerShifts_leave_ascii : ∀ s ∈ lowerShifts,
    (128 ≤ s.range.first + s.distance ∧ (s.range.last + s.distance < 0xd800 ∨
      0xdfff < s.range.first + s.distance ∧ s.range.last + s.distance < 0x110000)) ∨
        s.range.first = 0x212a ∧ s.range.last = 0x212a ∧ s.distance = -8383 := by
  decide +kernel

theorem toNat_charAt {n : Int} (nonneg : 0 ≤ n)
    (valid : n < 0xd800 ∨ 0xdfff < n ∧ n < 0x110000) : ((charAt n).toNat : Int) = n := by
  have valid : n.toNat.isValidChar := by
    unfold Nat.isValidChar
    omega
  rw [charAt, Char.ofNat, dif_pos valid]
  show (n.toNat : Int) = n
  omega

theorem shifted_leaves_ascii {c : Char} (h : isAscii c = false) :
    isAscii (shifted lowerShifts c) = false ∨ shifted lowerShifts c = 'k' := by
  unfold shifted
  cases found : lowerShifts.find? (·.range.contains c) with
  | none => exact .inl h
  | some s =>
    have inside := List.find?_some found
    simp only [CodeRange.contains, Bool.and_eq_true, decide_eq_true_eq] at inside
    obtain ⟨⟨first_le, le_last⟩, -⟩ := inside
    rcases lowerShifts_leave_ascii s (List.mem_of_find?_eq_some found) with
      ⟨beyond, valid⟩ | ⟨first, last, distance⟩
    · refine .inl (decide_eq_false ?_)
      have place := toNat_charAt (n := c.toNat + s.distance) (by omega) (by omega)
      dsimp only
      omega
    · have kelvin : c.toNat = 0x212a := by omega
      refine .inr ?_
      dsimp only
      rw [kelvin, distance]
      rfl

theorem lowerChar_leaves_ascii {c : Char} (h : isAscii c = false) :
    ∃ d ∈ lowerChar c, isAscii d = false ∨ d = 'k' := by
  rw [lowerChar, h, if_neg Bool.false_ne_true]
  split
  · exact ⟨'\u0307', by decide, .inl rfl⟩
  · exact ⟨_, List.mem_singleton_self _, shifted_leaves_ascii h⟩

/-- A text is ASCII if its lower case is, and has no `k`. -/
theorem isAscii_of_lower {cs : List Char} (h : ∀ d ∈ lower cs, isAscii d = true ∧ d ≠ 'k') :
    ∀ c ∈ cs, isAscii c = true := by
  have from_any : ∀ before, (∀ d ∈ lowerAfter before cs, isAscii d = true ∧ d ≠ 'k') →
      ∀ c ∈ cs, isAscii c = true := by
    clear h
    induction cs with
    | nil => exact fun _ _ => List.forall_mem_nil _
    | cons c cs ih =>
      intro before h
      rw [lowerAfter] at h
      obtain ⟨first, rest⟩ := List.forall_mem_append.mp h
      refine List.forall_mem_cons.mpr ⟨Bool.of_not_eq_false fun other => ?_, ih _ rest⟩
      split at first
      · have sigma := (List.forall_mem_singleton.mp first).1
        split at sigma <;> cases sigma
      · obtain ⟨d, hd, leaves⟩ := lowerChar_leaves_ascii other
        obtain ⟨ascii, not_k⟩ := first d hd
        rcases leaves with leaves | k
        · rw [ascii] at leaves
          cases leaves
        · exact not_k k
  exact from_any [] h

/-- The last character of a text has its lower case at the end, unless it is a sigma. -/
theorem lower_concat (cs : List Char) {c : Char} (h : c ≠ '\u03a3') :
    ∃ front, lower (cs ++ [c]) = front ++ lowerChar c := by
  have from_any : ∀ before, ∃ front, lowerAfter before (cs ++ [c]) = front ++ lowerChar c := by
    induction cs with
    | nil => exact fun before => ⟨[], by rw [List.nil_append, lowerAfter_cons_of_ne h]; simp [lowerAfter]⟩
    | cons d cs ih =>
      intro before
      obtain ⟨front, rest⟩ := ih (d :: before)
      exact ⟨_, by rw [List.cons_append, lowerAfter, rest, ← List.append_assoc]⟩
  exact from_any []

end Docstore.LetterCase
