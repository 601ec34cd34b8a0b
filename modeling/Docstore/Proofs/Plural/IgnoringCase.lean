import Docstore.Proofs.Model.Registration
import Docstore.Proofs.Plural.Additions
import Docstore.Proofs.Text.AsciiCase

/-!
# Plurals of names that differ in case

A plural is looked for by the word in lower case, but cut from the word as it is, or taken from the tables
with a capital at its start. On ASCII words both ways end in the same plural once it is in lower case
(`English.lower_pluralOf`). The tables have to take part: every plural in them has to be an ASCII text in
lower case (`EnglishWords.PlainPlurals`). The standard ones are, and an added plural becomes one if it is
ASCII (`EnglishWords.plainPlurals_addAll`); nothing is asked of singulars and uncountable words.

So the collections of models whose names differ only in case have names that differ only in case
(`English.plural_ignores_case`).
-/

namespace Docstore

open LetterCase (lower lowerText AsciiText isAscii)

/-- Whether a word is added with an ASCII plural, or with none. -/
def Addition.HasAsciiPlural : Addition → Prop
  | .irregular _ plural => AsciiText plural
  | .uncountable _ => True

instance : (a : Addition) → Decidable a.HasAsciiPlural
  | .irregular _ plural => inferInstanceAs (Decidable (AsciiText plural))
  | .uncountable _ => .isTrue trivial

namespace EnglishWords

variable {w : EnglishWords}

/-- Whether all plurals of singulars are ASCII texts in lower case. -/
def PlainPlurals (w : EnglishWords) : Prop :=
  ∀ e ∈ w.irregular, e.2.all isAscii = true ∧ lower e.2 = e.2

theorem plainPlurals_standard : standard.PlainPlurals := by
  unfold PlainPlurals
  decide +kernel

theorem plainPlurals_add (plain : w.PlainPlurals) {a : Addition} (ascii : a.HasAsciiPlural) :
    (w.add a).PlainPlurals := by
  cases a with
  | irregular singular plural =>
    intro e he
    rcases mem_irregular_withIrregular.mp he with rfl | ⟨kept, -⟩
    · have letters : ∀ c ∈ plural.toList, isAscii c = true := AsciiText.isAscii ascii
      exact ⟨List.all_eq_true.mpr (LetterCase.isAscii_lower letters), LetterCase.lower_lower letters⟩
    · exact plain e kept
  | uncountable word => exact plain

theorem plainPlurals_addAll (plain : w.PlainPlurals) {additions : List Addition}
    (ascii : ∀ a ∈ additions, a.HasAsciiPlural) : (w.addAll additions).PlainPlurals := by
  apply List.foldlRecOn (motive := PlainPlurals) additions add plain
  intro w plain a ha
  exact plainPlurals_add plain (ascii a ha)

end EnglishWords

namespace English

open EnglishWords (standard)

variable {w : EnglishWords} {word : List Char}

/-- A capital that a plural gets from a word is lost in lower case, and a word in lower case gives none. -/
theorem lower_matchCase_plain {plural : List Char} (ascii : ∀ c ∈ word, isAscii c = true)
    (letters : ∀ c ∈ plural, isAscii c = true) (same : lower plural = plural) :
    lower (matchCase word plural) = matchCase (lower word) plural := by
  have kept : matchCase (lower word) plural = plural := by
    cases word with
    | nil => rfl
    | cons c cs =>
      have small : LetterCase.isUppercase c.toLower = false :=
        LetterCase.isUppercase_toLower c (ascii c List.mem_cons_self)
      rw [LetterCase.lower_of_isAscii ascii, List.map_cons, matchCase, small,
        if_neg Bool.false_ne_true]
  rw [kept]
  rcases matchCase_cases word plural with as_listed | capital
  · rw [as_listed, same]
  · rw [capital, LetterCase.lower_capitalized letters, same]

/-- The plural of an ASCII word is, in lower case, that of the word in lower case. -/
theorem lower_pluralOf (plain : w.PlainPlurals) (ascii : ∀ c ∈ word, isAscii c = true) :
    lower (pluralOf w word) = pluralOf w (lower word) := by
  -- the word in lower case is looked up as the word itself, so both sides are in the same case
  have settled : lower (lower word) = lower word := LetterCase.lower_lower ascii
  by_cases uncountable : lower word ∈ w.uncountable
  · rw [pluralOf_of_uncountable uncountable, pluralOf_of_uncountable (settled.symm ▸ uncountable)]
  cases found : w.irregular.lookup (lower word) with
  | some plural =>
    obtain ⟨letters, same⟩ := plain _ (EnglishWords.mem_of_lookup found)
    rw [pluralOf_of_lookup uncountable found,
      pluralOf_of_lookup (settled.symm ▸ uncountable) (settled.symm ▸ found)]
    exact lower_matchCase_plain ascii (List.all_eq_true.mp letters) same
  | none =>
    have not_singular : lower word ∉ w.singulars := EnglishWords.lookup_eq_none_iff.mp found
    by_cases plural : lower word ∈ w.plurals
    · rw [pluralOf_of_plural plural not_singular,
        pluralOf_of_plural (settled.symm ▸ plural) (settled.symm ▸ not_singular)]
    · have all_ascii := List.all_eq_true.mpr ascii
      have all_ascii_lower := List.all_eq_true.mpr (LetterCase.isAscii_lower ascii)
      rw [pluralOf_of_unlisted not_singular plural,
        pluralOf_of_unlisted (settled.symm ▸ not_singular) (settled.symm ▸ plural),
        if_pos all_ascii, if_pos all_ascii_lower, settled, lower_apply (change_mem _) ascii]

theorem lowerText_plural (plain : w.PlainPlurals) {name : String} (ascii : AsciiText name) :
    lowerText (plural w name) = plural w (lowerText name) := by
  have inside : ∀ c ∈ trimmed name.toList, isAscii c = true :=
    fun c hc => ascii.isAscii c (trimmed_subset _ hc)
  have trimmed_eq : trimmed (lowerText name).toList = lower (trimmed name.toList) := by
    rw [lowerText, String.toList_ofList, LetterCase.trimmed_lower ascii.isAscii]
  by_cases blank : trimmed name.toList = []
  · have blank_lower : trimmed (lowerText name).toList = [] := by rw [trimmed_eq, blank]; rfl
    rw [plural_of_blank blank, plural_of_blank blank_lower]
    rfl
  · have nonblank_lower : trimmed (lowerText name).toList ≠ [] := by
      rw [trimmed_eq]
      exact mt LetterCase.lower_eq_nil_iff.mp blank
    rw [plural_of_nonblank blank, plural_of_nonblank nonblank_lower, trimmed_eq, lowerText,
      String.toList_ofList, lower_pluralOf plain inside]

/-- Letter case goes through plurals, by tables to which any words were added of which the plurals are
ASCII: the plural of an ASCII name is, in lower case, that of the name in lower case. If a registry with
these tables binds a model that is registered under an ASCII name to a collection, it binds those under
the names that differ from it only in case to collections that differ from this one only in case. -/
theorem plural_ignores_case (additions : List Addition)
    (ascii : ∀ a ∈ additions, a.HasAsciiPlural) (r : Registry σ)
    (english : r.pluralizer = .english (standard.addAll additions)) :
    (∀ name, AsciiText name →
        lowerText (plural (standard.addAll additions) name) =
          plural (standard.addAll additions) (lowerText name)) ∧
      ∀ name other, AsciiText name → AsciiText other → lowerText name = lowerText other →
        ∀ schema collection,
          (∃ m, r.register name (some schema) = .ok m ∧ m.collection = .ok collection) →
          ∀ otherSchema, ∃ otherCollection, lowerText otherCollection = lowerText collection ∧
            ∃ m, r.register other (some otherSchema) = .ok m ∧ m.collection = .ok otherCollection := by
  have plain : (standard.addAll additions).PlainPlurals :=
    EnglishWords.plainPlurals_addAll EnglishWords.plainPlurals_standard ascii
  refine ⟨fun name letters => lowerText_plural plain letters, ?_⟩
  intro name other letters otherLetters same schema collection registered otherSchema
  obtain ⟨is_plural, nonempty⟩ := Registry.registers_iff.mp registered
  have same_lower : lowerText (r.pluralizer.plural other) = lowerText collection := by
    rw [← is_plural, english, Pluralizer.plural, Pluralizer.plural, lowerText_plural plain letters,
      lowerText_plural plain otherLetters, same]
  have other_nonempty : r.pluralizer.plural other ≠ "" := by
    intro empty
    rw [empty, LetterCase.lowerText_empty] at same_lower
    exact nonempty (LetterCase.lowerText_eq_empty_iff.mp same_lower.symm)
  exact ⟨_, same_lower, Registry.registers_iff.mpr ⟨rfl, other_nonempty⟩⟩

/-- A registry that forms plurals by tables to which words were added. -/
def aquariumRegistry : Registry (List AnyCall) :=
  ⟨Recorder.adapter none, .english (standard.addAll aquarium), .standard⟩

theorem plural_ignores_case_octopus :
    lowerText (plural (standard.addAll aquarium) "\tOCTOPUS ") =
        plural (standard.addAll aquarium) "\toctopus " ∧
      ∃ collection, lowerText collection = "octopi" ∧
        ∃ m, aquariumRegistry.register "octoPUS" (some ∅) = .ok m ∧ m.collection = .ok collection := by
  obtain ⟨through, registers⟩ := plural_ignores_case aquarium (by decide) aquariumRegistry rfl
  have first : ∃ m, aquariumRegistry.register "Octopus" (some ∅) = .ok m ∧
      m.collection = .ok "Octopi" :=
    Registry.registers_iff.mpr ⟨by decide +kernel, by decide⟩
  have other := registers "Octopus" "octoPUS" (by decide) (by decide) (by decide +kernel) ∅ "Octopi" first ∅
  have lower_name : lowerText "\tOCTOPUS " = "\toctopus " := by decide +kernel
  have lower_collection : lowerText "Octopi" = "octopi" := by decide +kernel
  rw [lower_collection] at other
  exact ⟨lower_name ▸ through "\tOCTOPUS " (by decide), other⟩

end English

end Docstore
