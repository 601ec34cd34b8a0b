import Docstore.Plural.English
import Docstore.Proofs.Text.LetterCase

/-!
# Rules for endings

What the rules for endings do to a word is one of six changes (`English.change_mem`): none, or one that
puts an ending in `s` there. Each of them commutes with lower case on ASCII words
(`English.lower_apply`), and leaves a word that is not empty and has no white space around it as such a
word (`English.trimmed_apply`). None drops more characters than the word has
(`English.drop_change_le_length`).

A word in `es` is kept (`English.change_of_es`). A word that takes an `s` is kept from then on, unless
it ends then as some singulars do, such as `status` or `atlas` (`English.change_append_s`). Without
their `s` these endings end in `u`, `a` or `i`, and a word in one of the three takes an `s`
(`English.change_of_endsIn_vowel`).
-/

namespace Docstore.English

variable {word : List Char} {c : Change}

/-- The endings in `s` of words that are taken for singulars. -/
def singularEndings : List String := ["us", "alias", "gas", "tlas", "tmas", "ris"]

theorem endsIn_iff {endings : List String} :
    endsIn word endings = true ↔ ∃ e ∈ endings, e.toList <:+ word := by
  simp only [endsIn, List.any_eq_true, List.isPrefixOf_iff_prefix, List.reverse_prefix]

theorem endsIn_append_self (front : List Char) (ending : String) :
    endsIn (front ++ ending.toList) [ending] = true :=
  endsIn_iff.mpr ⟨_, List.mem_singleton_self _, List.suffix_append _ _⟩

theorem endsIn_mono {endings others : List String}
    (each : ∀ e ∈ endings, endsIn e.toList others = true) (h : endsIn word endings = true) :
    endsIn word others = true := by
  obtain ⟨e, he, suffix_of⟩ := endsIn_iff.mp h
  obtain ⟨o, ho, shorter⟩ := endsIn_iff.mp (each e he)
  exact endsIn_iff.mpr ⟨o, ho, shorter.trans suffix_of⟩

theorem le_length_of_endsIn {endings : List String} {n : Nat}
    (each : ∀ e ∈ endings, n ≤ e.toList.length) (h : endsIn word endings = true) : n ≤ word.length := by
  obtain ⟨e, he, suffix_of⟩ := endsIn_iff.mp h
  exact Nat.le_trans (each e he) suffix_of.length_le

theorem endsIn_append_s (word : List Char) :
    endsIn (word ++ "s".toList) ["us", "as", "is"] = endsIn word ["u", "a", "i"] := by
  simp [endsIn]

/-- The endings of singulars in `s` have a vowel before it, one of three. -/
theorem singularEndings_vowel : ∀ e ∈ singularEndings, endsIn e.toList ["us", "as", "is"] = true := by
  decide

/-! ## The six changes -/

/-- The changes that words undergo. -/
def changes : List Change :=
  [⟨0, []⟩, ⟨0, "s".toList⟩, ⟨0, "es".toList⟩, ⟨1, "ies".toList⟩, ⟨2, "ves".toList⟩, ⟨1, "ves".toList⟩]

theorem change_mem (word : List Char) : change word ∈ changes := by
  unfold change
  repeat' split
  all_goals simp [changes]

theorem apply_drop_zero (word ending : List Char) :
    (⟨0, ending⟩ : Change).apply word = word ++ ending := by
  rw [Change.apply, Nat.sub_zero, List.take_length]

theorem changes_cases (hc : c ∈ changes) :
    c = ⟨0, []⟩ ∨ c = ⟨0, "s".toList⟩ ∨ "es".toList <:+ c.ending := by
  revert c
  simp [changes]

/-- More characters are put at the end of a word than are dropped there, if the word is changed. -/
theorem drop_lt_of_mem_changes (hc : c ∈ changes) : c = ⟨0, []⟩ ∨ c.drop < c.ending.length := by
  revert c
  simp [changes]

/-- No more is dropped from a word than the ending for which it is dropped. -/
theorem drop_change_le_length (word : List Char) : (change word).drop ≤ word.length := by
  unfold change
  repeat' split
  · exact Nat.zero_le _
  · exact Nat.zero_le _
  · exact Nat.zero_le _
  · next y => exact le_length_of_endsIn (by decide) (Bool.and_eq_true_iff.mp y).1
  · next fe => exact le_length_of_endsIn (by decide) (Bool.and_eq_true_iff.mp fe).1
  · next f => exact le_length_of_endsIn (by decide) f
  · exact Nat.zero_le _

theorem apply_eq_self_iff (hc : c ∈ changes) : c.apply word = word ↔ c = ⟨0, []⟩ := by
  constructor
  · intro same
    refine (drop_lt_of_mem_changes hc).resolve_right fun longer => ?_
    have length := congrArg List.length same
    rw [Change.apply, List.length_append, List.length_take] at length
    omega
  · rintro rfl
    rw [apply_drop_zero, List.append_nil]

/-! ## Lower case and white space -/

theorem endings_lower : ∀ c ∈ changes, c.ending.all LetterCase.isAscii = true ∧
    c.ending.map Char.toLower = c.ending ∧ trimmed c.ending = c.ending := by
  decide

theorem isAscii_apply (hc : c ∈ changes) (ascii : ∀ d ∈ word, LetterCase.isAscii d = true) :
    ∀ d ∈ c.apply word, LetterCase.isAscii d = true :=
  List.forall_mem_append.mpr
    ⟨fun d hd => ascii d (List.mem_of_mem_take hd), List.all_eq_true.mp (endings_lower c hc).1⟩

/-- It makes no difference whether an ASCII word is changed before or after it gets lower case. -/
theorem lower_apply (hc : c ∈ changes) (ascii : ∀ d ∈ word, LetterCase.isAscii d = true) :
    LetterCase.lower (c.apply word) = c.apply (LetterCase.lower word) := by
  rw [LetterCase.lower_of_isAscii (isAscii_apply hc ascii), LetterCase.lower_of_isAscii ascii,
    Change.apply, Change.apply, List.map_append, List.map_take, List.length_map,
    (endings_lower c hc).2.1]

theorem apply_ne_nil (hc : c ∈ changes) (nonempty : word ≠ []) : c.apply word ≠ [] := by
  rcases drop_lt_of_mem_changes hc with rfl | longer
  · rwa [(apply_eq_self_iff hc).mpr rfl]
  · exact List.append_ne_nil_of_right_ne_nil _ (List.ne_nil_of_length_pos (Nat.zero_lt_of_lt longer))

theorem trimmed_apply (hc : c ∈ changes) (bare : trimmed word = word) :
    trimmed (c.apply word) = c.apply word := by
  rcases drop_lt_of_mem_changes hc with rfl | longer
  · rwa [(apply_eq_self_iff hc).mpr rfl]
  · exact trimmed_take_append bare (endings_lower c hc).2.2
      (List.ne_nil_of_length_pos (Nat.zero_lt_of_lt longer)) _

/-! ## Which words are kept -/

/-- A word that takes an `s` does not end in one. -/
theorem endsIn_s_of_plain (plain : change word = ⟨0, "s".toList⟩) : endsIn word ["s"] = false := by
  refine Bool.of_not_eq_true fun s => ?_
  rw [change, if_pos s] at plain
  repeat' split at plain
  all_goals cases plain

theorem change_of_es (front : List Char) : change (front ++ "es".toList) = ⟨0, []⟩ := by
  simp [change, endsIn]

theorem change_of_endsIn_vowel (h : endsIn word ["u", "a", "i"] = true) :
    change word = ⟨0, "s".toList⟩ := by
  obtain ⟨e, he, front, rfl⟩ := endsIn_iff.mp h
  have vowel : e = "u" ∨ e = "a" ∨ e = "i" := by simpa using he
  rcases vowel with rfl | rfl | rfl <;> simp [change, endsIn]

/-- What happens to a word that took an `s`. -/
theorem change_append_s (no_s : endsIn word ["s"] = false) :
    change (word ++ "s".toList) =
      if endsIn (word ++ "s".toList) singularEndings then ⟨0, "es".toList⟩ else ⟨0, []⟩ := by
  have no_hiss : endsIn (word ++ "s".toList) ["ss", "sh", "ch", "x", "z"] = false := by
    simpa [endsIn, List.isPrefixOf_cons_cons] using no_s
  rw [change, no_hiss, endsIn_append_self word "s"]
  rfl

end Docstore.English
