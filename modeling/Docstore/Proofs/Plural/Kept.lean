import Docstore.Proofs.Model.Registration
import Docstore.Proofs.Plural.Tables

/-!
# Plurals of plurals

A plural is not always its own plural: that of `menu` is `menus`, which ends as the singular `status`
does and has the plural `menuses`. `English.plural_kept_iff` says for which words it is
(`EnglishWords.KeepsPlural`).

The words that are their own plural come first (`English.pluralOf_eq_self_iff`). Whether a plural is one
of them depends on the way it was formed. A plural of the tables is one, and so is a plural in `es`. A
word that took an `s` is one unless the tables or its end make it a singular
(`English.pluralOf_append_s_iff`). Outside ASCII there are no rules for endings: a word takes an `s` each
time, unless it is in the tables (`English.pluralOf_append_s_of_not_ascii`).
-/

namespace Docstore

variable {word : List Char}

/-- Whether a word is taken for a singular once it has an `s`: for one of the tables, or by its end. -/
def EnglishWords.SingularWithS (w : EnglishWords) (word : List Char) : Prop :=
  word ++ "s".toList ∈ w.singulars ∨
    English.endsIn (word ++ "s".toList) English.singularEndings = true

/-- Whether the plural of a word is its own plural: the word is in the tables, or it is ASCII and not
taken for a singular once it has an `s`. -/
def EnglishWords.KeepsPlural (w : EnglishWords) (word : List Char) : Prop :=
  LetterCase.lower word ∈ w.singulars ∨ LetterCase.lower word ∈ w.plurals ∨
    word.all LetterCase.isAscii = true ∧ ¬ w.SingularWithS (LetterCase.lower word)

instance (w : EnglishWords) (word : List Char) : Decidable (w.SingularWithS word) :=
  inferInstanceAs (Decidable (_ ∨ _))

instance (w : EnglishWords) (word : List Char) : Decidable (w.KeepsPlural word) :=
  inferInstanceAs (Decidable (_ ∨ _ ∨ _ ∧ _))

namespace English

open EnglishWords (standard)

/-- A word that is taken for a singular once it has an `s` is one that takes an `s`. -/
theorem change_of_singularWithS (h : standard.SingularWithS word) :
    change word = ⟨0, "s".toList⟩ := by
  refine change_of_endsIn_vowel (endsIn_append_s word ▸ ?_)
  rcases h with listed | ending
  · exact (EnglishWords.standard_singulars _ listed).2 (endsIn_append_self word "s")
  · exact endsIn_mono singularEndings_vowel ending

/-- The words that are their own plural. -/
theorem pluralOf_eq_self_iff : pluralOf standard word = word ↔
    LetterCase.lower word ∈ standard.plurals ∨
      LetterCase.lower word ∉ standard.singulars ∧ (∀ c ∈ word, LetterCase.isAscii c = true) ∧
        change (LetterCase.lower word) = ⟨0, []⟩ := by
  by_cases plural : LetterCase.lower word ∈ standard.plurals
  · simp only [pluralOf_of_plural plural (EnglishWords.standard_plurals _ plural).1, plural, true_or]
  rw [or_iff_right plural]
  by_cases singular : LetterCase.lower word ∈ standard.singulars
  · obtain ⟨e, he, same⟩ := exists_pluralOf_of_singular (mt (List.mem_append_left _) plural) singular
    refine iff_of_false (fun own => plural ?_) fun h => h.1 singular
    rw [← own, same, lower_matchCase he]
    exact List.mem_append_right _ (List.mem_map_of_mem he)
  rw [pluralOf_of_unlisted singular plural]
  by_cases ascii : word.all LetterCase.isAscii = true
  · have all_ascii := List.all_eq_true.mp ascii
    rw [if_pos ascii, apply_eq_self_iff (change_mem _)]
    exact ⟨fun kept => ⟨singular, all_ascii, kept⟩, fun h => h.2.2⟩
  · rw [if_neg ascii]
    refine iff_of_false (fun own => ?_) fun h => ascii (List.all_eq_true.mpr h.2.1)
    cases List.append_right_eq_self.mp own

/-! ## Plurals of plurals -/

theorem pluralOf_pluralOf_of_singular (singular : LetterCase.lower word ∈ standard.singulars)
    (not_plural : LetterCase.lower word ∉ standard.plurals) :
    pluralOf standard (pluralOf standard word) = pluralOf standard word := by
  obtain ⟨e, he, same⟩ :=
    exists_pluralOf_of_singular (mt (List.mem_append_left _) not_plural) singular
  rw [same, pluralOf_eq_self_iff, lower_matchCase he]
  exact .inl (List.mem_append_right _ (List.mem_map_of_mem he))

/-- An ASCII word that took an `s` is its own plural unless it is taken for a singular then. -/
theorem pluralOf_append_s_iff (ascii : ∀ c ∈ word, LetterCase.isAscii c = true)
    (plain : change (LetterCase.lower word) = ⟨0, "s".toList⟩) :
    pluralOf standard (word ++ "s".toList) = word ++ "s".toList ↔
      ¬ standard.SingularWithS (LetterCase.lower word) := by
  have mem : ⟨0, "s".toList⟩ ∈ changes := plain ▸ change_mem _
  have lower_eq := lower_apply mem ascii
  have ascii_s := isAscii_apply mem ascii
  rw [apply_drop_zero] at ascii_s
  rw [apply_drop_zero, apply_drop_zero] at lower_eq
  rw [pluralOf_eq_self_iff, lower_eq, change_append_s (endsIn_s_of_plain plain),
    EnglishWords.SingularWithS, not_or]
  constructor
  · rintro (plural | ⟨not_singular, -, kept⟩)
    · obtain ⟨not_singular, ending, -⟩ := EnglishWords.standard_plurals _ plural
      exact ⟨not_singular, Bool.eq_false_iff.mp ending⟩
    · refine ⟨not_singular, fun ending => ?_⟩
      rw [if_pos ending] at kept
      cases kept
  · rintro ⟨not_singular, ending⟩
    exact .inr ⟨not_singular, ascii_s, if_neg ending⟩

/-- A word outside ASCII that took an `s` is not its own plural. -/
theorem pluralOf_append_s_of_not_ascii (other : ¬ ∀ c ∈ word, LetterCase.isAscii c = true) :
    pluralOf standard (word ++ "s".toList) ≠ word ++ "s".toList := by
  intro own
  have ascii : ∀ c ∈ word ++ "s".toList, LetterCase.isAscii c = true := by
    rcases pluralOf_eq_self_iff.mp own with plural | ⟨-, ascii, -⟩
    · obtain ⟨front, last⟩ := LetterCase.lower_concat word (c := 's') (by decide)
      have s : endsIn (LetterCase.lower (word ++ "s".toList)) ["s"] = true :=
        last ▸ endsIn_append_self front "s"
      have letters := List.all_eq_true.mp ((EnglishWords.standard_plurals _ plural).2.2 s)
      exact LetterCase.isAscii_of_lower fun d hd => by simpa using letters d hd
    · exact ascii
  exact other (List.forall_mem_append.mp ascii).1

/-- The plural of an ASCII word of no table is its own plural unless it has an `s` with which it is
taken for a singular. -/
theorem pluralOf_change_iff (not_singular : LetterCase.lower word ∉ standard.singulars)
    (ascii : ∀ c ∈ word, LetterCase.isAscii c = true) :
    pluralOf standard ((change (LetterCase.lower word)).apply word) =
        (change (LetterCase.lower word)).apply word ↔
      ¬ standard.SingularWithS (LetterCase.lower word) := by
  have mem := change_mem (LetterCase.lower word)
  rcases changes_cases mem with kept | plain | es
  · rw [(apply_eq_self_iff mem).mpr kept, pluralOf_eq_self_iff]
    refine iff_of_true (.inr ⟨not_singular, ascii, kept⟩) fun reopened => ?_
    cases kept.symm.trans (change_of_singularWithS reopened)
  · rw [plain, apply_drop_zero]
    exact pluralOf_append_s_iff ascii plain
  · refine iff_of_true (pluralOf_eq_self_iff.mpr (.inr ?_)) fun reopened => ?_
    · obtain ⟨front, lower_eq⟩ : "es".toList <:+
          LetterCase.lower ((change (LetterCase.lower word)).apply word) := by
        rw [lower_apply mem ascii]
        exact es.trans (List.suffix_append _ _)
      rw [← lower_eq]
      refine ⟨fun listed => ?_, isAscii_apply mem ascii, change_of_es front⟩
      have no_es := (EnglishWords.standard_singulars _ listed).1
      rw [endsIn_append_self front "es"] at no_es
      cases no_es
    · rw [change_of_singularWithS reopened] at es
      exact absurd es (by decide)

theorem pluralOf_pluralOf_iff :
    pluralOf standard (pluralOf standard word) = pluralOf standard word ↔ standard.KeepsPlural word := by
  by_cases plural : LetterCase.lower word ∈ standard.plurals
  · have own := pluralOf_of_plural plural (EnglishWords.standard_plurals _ plural).1
    exact iff_of_true (by rw [own, own]) (.inr (.inl plural))
  by_cases singular : LetterCase.lower word ∈ standard.singulars
  · exact iff_of_true (pluralOf_pluralOf_of_singular singular plural) (.inl singular)
  rw [EnglishWords.KeepsPlural, or_iff_right singular, or_iff_right plural,
    pluralOf_of_unlisted singular plural]
  by_cases ascii : word.all LetterCase.isAscii = true
  · rw [if_pos ascii, pluralOf_change_iff singular (List.all_eq_true.mp ascii), and_iff_right ascii]
  · rw [if_neg ascii]
    exact iff_of_false (pluralOf_append_s_of_not_ascii (mt List.all_eq_true.mpr ascii))
      fun h => ascii h.1

theorem plural_plural_iff (name : String) :
    plural standard (plural standard name) = plural standard name ↔
      standard.KeepsPlural (trimmed name.toList) := by
  by_cases blank : trimmed name.toList = []
  · rw [plural_of_blank blank, blank]
    exact iff_of_true rfl (by decide +kernel)
  · obtain ⟨nonempty, bare⟩ := pluralOf_bare blank (trimmed_trimmed name.toList)
    rw [plural_of_nonblank blank, plural_of_nonblank (by rwa [String.toList_ofList, bare]),
      String.toList_ofList, bare, String.ofList_inj, pluralOf_pluralOf_iff]

/-- The plural of a name is its own plural just for the words of the tables, and for ASCII words that
are not taken for singulars once they have an `s`. For these names, and for no others, a registry that
forms plurals in the standard way binds a model that is registered under the name of a collection to
that same collection. -/
theorem plural_kept_iff (r : Registry σ) (english : r.pluralizer = .english standard) (name : String) :
    (plural standard (plural standard name) = plural standard name ↔
        standard.KeepsPlural (trimmed name.toList)) ∧
      ∀ schema m collection, r.register name (some schema) = .ok m →
        m.collection = .ok collection → ∀ otherSchema,
        ((∃ again, r.register collection (some otherSchema) = .ok again ∧
          again.collection = .ok collection) ↔ standard.KeepsPlural (trimmed name.toList)) := by
  refine ⟨plural_plural_iff name, fun schema m collection registered named otherSchema => ?_⟩
  obtain ⟨same, nonempty⟩ := Registry.registers_iff.mp ⟨m, registered, named⟩
  rw [english, Pluralizer.plural] at same
  rw [Registry.registers_iff, and_iff_left nonempty, english, Pluralizer.plural, ← same]
  exact plural_plural_iff name

/-- A registry that forms plurals in the standard way. -/
def recording : Registry (List AnyCall) := ⟨Recorder.adapter none, .english standard, .standard⟩

theorem plural_kept_post :
    plural standard (plural standard "post") = plural standard "post" ∧
      ∃ again, recording.register "posts" (some ∅) = .ok again ∧ again.collection = .ok "posts" := by
  obtain ⟨kept, registered⟩ := plural_kept_iff recording rfl "post"
  have regular : standard.KeepsPlural (trimmed "post".toList) := by decide +kernel
  obtain ⟨m, first, named⟩ : ∃ m, recording.register "post" (some ∅) = .ok m ∧
      m.collection = .ok "posts" :=
    Registry.registers_iff.mpr ⟨by decide +kernel, by decide⟩
  exact ⟨kept.mpr regular, (registered ∅ m "posts" first named ∅).mpr regular⟩

/-- The plural `menus` ends as a singular does. -/
theorem not_forall_plural_kept :
    ¬ ∀ name, plural standard (plural standard name) = plural standard name :=
  fun kept => absurd (kept "menu") (by decide +kernel)

end English

end Docstore
