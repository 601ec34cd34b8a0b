import Docstore.Proofs.Text.LetterCase
import Docstore.Proofs.Text.Padding

/-!
# Lower case of ASCII texts

Lower case is a map of characters on ASCII texts, and each of the 128 characters can be asked for what
the map does to it (`LetterCase.forall_isAscii`). A second time it changes nothing
(`LetterCase.lower_lower`), a capital at the start is lost in it (`LetterCase.lower_capitalized`), and
white space around a text may be removed before or after (`LetterCase.trimmed_lower`).
-/

namespace Docstore.LetterCase

variable {c : Char} {cs : List Char}

/-- A text in lower case. -/
def lowerText (s : String) : String := String.ofList (lower s.toList)

/-- A text that has only ASCII characters. -/
def AsciiText (s : String) : Prop := s.toList.all isAscii = true

instance (s : String) : Decidable (AsciiText s) :=
  inferInstanceAs (Decidable (s.toList.all isAscii = true))

theorem AsciiText.isAscii {s : String} (h : AsciiText s) : ∀ c ∈ s.toList, isAscii c = true :=
  List.all_eq_true.mp h

/-! ## Characters -/

/-- What holds of 128 characters, one by one, holds of all that are ASCII. -/
theorem forall_isAscii {p : Char → Prop} (each : ∀ n : Fin 128, p (Char.ofNat n)) (c : Char)
    (ascii : isAscii c = true) : p c := by
  have here := each ⟨c.toNat, of_decide_eq_true ascii⟩
  rwa [Char.ofNat_toNat] at here

theorem isAscii_toLower : ∀ c, isAscii c = true → isAscii c.toLower = true :=
  forall_isAscii (by decide)

theorem toLower_toLower : ∀ c, isAscii c = true → c.toLower.toLower = c.toLower :=
  forall_isAscii (by decide)

theorem toLower_toUpper : ∀ c, isAscii c = true → c.toUpper.toLower = c.toLower :=
  forall_isAscii (by decide)

theorem isAscii_toUpper : ∀ c, isAscii c = true → isAscii c.toUpper = true :=
  forall_isAscii (by decide)

theorem isUppercase_toLower : ∀ c, isAscii c = true → isUppercase c.toLower = false :=
  forall_isAscii (by decide)

theorem isBlank_toLower : ∀ c, isAscii c = true → isBlank c.toLower = isBlank c :=
  forall_isAscii (by decide)

/-! ## Texts -/

theorem isAscii_lower (ascii : ∀ c ∈ cs, isAscii c = true) : ∀ c ∈ lower cs, isAscii c = true := by
  rw [lower_of_isAscii ascii]
  intro c hc
  obtain ⟨d, hd, rfl⟩ := List.mem_map.mp hc
  exact isAscii_toLower d (ascii d hd)

theorem length_lower (ascii : ∀ c ∈ cs, isAscii c = true) : (lower cs).length = cs.length := by
  rw [lower_of_isAscii ascii, List.length_map]

/-- Lower case of a text in lower case changes nothing. -/
theorem lower_lower (ascii : ∀ c ∈ cs, isAscii c = true) : lower (lower cs) = lower cs := by
  rw [lower_of_isAscii (isAscii_lower ascii), lower_of_isAscii ascii, List.map_map]
  apply List.map_congr_left
  intro c hc
  exact toLower_toLower c (ascii c hc)

/-- A capital at the start makes no difference in lower case. -/
theorem lower_capitalized (ascii : ∀ c ∈ cs, isAscii c = true) : lower (capitalized cs) = lower cs := by
  cases cs with
  | nil => rfl
  | cons c cs =>
    obtain ⟨first, rest⟩ := List.forall_mem_cons.mp ascii
    have capital : capitalized (c :: cs) = c.toUpper :: cs := by
      rw [capitalized, upperChar, if_pos first, List.singleton_append]
    have still_ascii : ∀ d ∈ c.toUpper :: cs, isAscii d = true :=
      List.forall_mem_cons.mpr ⟨isAscii_toUpper c first, rest⟩
    rw [capital, lower_of_isAscii still_ascii, lower_of_isAscii ascii, List.map_cons, List.map_cons,
      toLower_toUpper c first]

theorem dropWhile_isBlank_map_toLower (ascii : ∀ c ∈ cs, isAscii c = true) :
    (cs.map Char.toLower).dropWhile isBlank = (cs.dropWhile isBlank).map Char.toLower := by
  induction cs with
  | nil => rfl
  | cons c cs ih =>
    obtain ⟨first, rest⟩ := List.forall_mem_cons.mp ascii
    rw [List.map_cons, List.dropWhile_cons, List.dropWhile_cons, isBlank_toLower c first]
    split
    · exact ih rest
    · rfl

/-- It makes no difference whether white space is removed before or after a text gets lower case. -/
theorem trimmed_lower (ascii : ∀ c ∈ cs, isAscii c = true) :
    trimmed (lower cs) = lower (trimmed cs) := by
  have back : ∀ c ∈ (cs.dropWhile isBlank).reverse, isAscii c = true := by
    intro c hc
    exact ascii c ((List.dropWhile_suffix isBlank).subset (List.mem_reverse.mp hc))
  have inside : ∀ c ∈ trimmed cs, isAscii c = true := fun c hc => ascii c (trimmed_subset cs hc)
  rw [lower_of_isAscii ascii, lower_of_isAscii inside, trimmed, trimmed,
    dropWhile_isBlank_map_toLower ascii, ← List.map_reverse, dropWhile_isBlank_map_toLower back,
    List.map_reverse]

/-- No text is empty in lower case that was not empty before. -/
theorem lower_eq_nil_iff : lower cs = [] ↔ cs = [] := by
  constructor
  · intro nothing
    cases cs with
    | nil => rfl
    | cons c cs =>
      have first := (List.append_eq_nil_iff.mp nothing).1
      unfold lowerChar at first
      repeat' split at first
      all_goals cases first
  · rintro rfl
    rfl

theorem AsciiText.lowerText {s : String} (h : AsciiText s) : AsciiText (lowerText s) := by
  rw [AsciiText, LetterCase.lowerText, String.toList_ofList]
  exact List.all_eq_true.mpr (isAscii_lower h.isAscii)

theorem lowerText_empty : lowerText "" = "" := rfl

theorem lowerText_eq_empty_iff {s : String} : lowerText s = "" ↔ s = "" := by
  rw [lowerText, ← String.toList_eq_nil_iff, String.toList_ofList, lower_eq_nil_iff,
    String.toList_eq_nil_iff]

end Docstore.LetterCase
