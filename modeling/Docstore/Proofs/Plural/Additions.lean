import Docstore.Proofs.Plural.Tables

/-!
# Added words

A caller adds words to the tables, one after another (`EnglishWords.addAll`), and a later word may stand
in the way of an earlier one. `English.plural_withIrregular` says what one more irregular word changes,
whatever was added before: the plural of its singular, unless that is uncountable, and the plurals of the
words that equal, in lower case, its singular, its plural or the plural that its singular had before.

The tables are asked three things about a word in lower case: whether it is uncountable, which plural it
has as a singular, and whether it is a plural. Two tables that answer alike form the same plural
(`English.pluralOf_congr`), so each answer is followed through `EnglishWords.withIrregular` by itself. A
singular that gets a new plural loses the old one, since no singular is listed twice
(`EnglishWords.nodup_singulars_addAll`).
-/

namespace Docstore

/-- A word that is added to the tables. -/
inductive Addition where
  | irregular (singular plural : String)
  | uncountable (word : String)

namespace EnglishWords

open LetterCase (lower)

variable {w : EnglishWords} {word : List Char} {singular plural : String}

/-- The tables with one more word. -/
def add (w : EnglishWords) : Addition → EnglishWords
  | .irregular singular plural => w.withIrregular singular plural
  | .uncountable word => w.withUncountable word

/-- The tables with more words, which are added one after another. -/
def addAll (w : EnglishWords) (additions : List Addition) : EnglishWords := additions.foldl add w

/-- Whether a word in lower case is listed as the plural of a singular. -/
def listsPlural (w : EnglishWords) (word : List Char) : Bool := w.irregular.any fun e => e.2 == word

theorem listsPlural_iff : w.listsPlural word = true ↔ ∃ e ∈ w.irregular, e.2 = word := by
  simp only [listsPlural, List.any_eq_true, beq_iff_eq]

/-! ## No singular is listed twice -/

theorem singulars_withIrregular (w : EnglishWords) (singular plural : String) :
    (w.withIrregular singular plural).singulars =
      lower singular.toList :: w.singulars.filter fun s => s ≠ lower singular.toList := by
  rw [EnglishWords.singulars, EnglishWords.singulars, List.filter_map]
  rfl

theorem nodup_singulars_add (distinct : w.singulars.Nodup) (a : Addition) :
    (w.add a).singulars.Nodup := by
  cases a with
  | irregular singular plural =>
    rw [add, singulars_withIrregular]
    apply List.nodup_cons.mpr
    exact ⟨by simp, distinct.filter _⟩
  | uncountable word => exact distinct

theorem nodup_singulars_addAll (distinct : w.singulars.Nodup) (additions : List Addition) :
    (w.addAll additions).singulars.Nodup := by
  apply List.foldlRecOn (motive := fun w => w.singulars.Nodup) additions add distinct
  intro w distinct a _
  exact nodup_singulars_add distinct a

theorem nodup_singulars_standard : standard.singulars.Nodup := by
  decide +kernel

/-- Every entry is found under its singular. -/
theorem lookup_of_mem (distinct : w.singulars.Nodup) {e : List Char × List Char}
    (he : e ∈ w.irregular) : w.irregular.lookup e.1 = some e.2 := by
  obtain ⟨before, after, split_at⟩ := List.append_of_mem he
  refine List.lookup_eq_some_iff.mpr ⟨before, after, split_at, ?_⟩
  intro earlier hearlier
  rw [singulars, split_at, List.map_append, List.map_cons, List.nodup_append] at distinct
  -- an earlier entry with this singular would list it twice
  have other := distinct.2.2 earlier.1 (List.mem_map_of_mem hearlier) e.1 List.mem_cons_self
  exact bne_iff_ne.mpr other.symm

/-! ## What an irregular word changes in the tables -/

theorem uncountable_withIrregular : (w.withIrregular singular plural).uncountable = w.uncountable :=
  rfl

theorem mem_irregular_withIrregular {e : List Char × List Char} :
    e ∈ (w.withIrregular singular plural).irregular ↔
      e = (lower singular.toList, lower plural.toList) ∨
        e ∈ w.irregular ∧ e.1 ≠ lower singular.toList := by
  simp only [withIrregular, List.mem_cons, List.mem_filter, decide_eq_true_eq]

theorem lookup_withIrregular_self :
    (w.withIrregular singular plural).irregular.lookup (lower singular.toList) =
      some (lower plural.toList) :=
  List.lookup_cons_self

theorem lookup_filter_of_ne {key : List Char} (other : word ≠ key)
    (table : List (List Char × List Char)) :
    (table.filter fun e => e.1 ≠ key).lookup word = table.lookup word := by
  induction table with
  | nil => rfl
  | cons e table ih =>
    by_cases replaced : e.1 = key
    · have passed_over : (word == e.1) = false := beq_eq_false_iff_ne.mpr (replaced ▸ other)
      rw [List.filter_cons_of_neg (by simp [replaced]), ih, List.lookup_cons, passed_over]
    · rw [List.filter_cons_of_pos (by simp [replaced]), List.lookup_cons, List.lookup_cons, ih]

theorem lookup_withIrregular_of_ne (other : word ≠ lower singular.toList) :
    (w.withIrregular singular plural).irregular.lookup word = w.irregular.lookup word := by
  have passed_over : (word == lower singular.toList) = false := beq_eq_false_iff_ne.mpr other
  rw [withIrregular, List.lookup_cons, passed_over]
  exact lookup_filter_of_ne other w.irregular

/-- A word is listed as a plural as before unless it is the new plural, or the one that went. -/
theorem listsPlural_withIrregular (distinct : w.singulars.Nodup) (not_new : word ≠ lower plural.toList)
    (not_old : w.irregular.lookup (lower singular.toList) ≠ some word) :
    (w.withIrregular singular plural).listsPlural word = w.listsPlural word := by
  rw [Bool.eq_iff_iff, listsPlural_iff, listsPlural_iff]
  constructor
  · rintro ⟨e, he, rfl⟩
    rcases mem_irregular_withIrregular.mp he with rfl | ⟨kept, -⟩
    · exact absurd rfl not_new
    · exact ⟨e, kept, rfl⟩
  · rintro ⟨e, he, rfl⟩
    -- only the entry of the singular goes, and its plural is the one that is excluded
    have stays : e.1 ≠ lower singular.toList := by
      intro same
      exact not_old (same ▸ lookup_of_mem distinct he)
    exact ⟨e, mem_irregular_withIrregular.mpr (.inr ⟨he, stays⟩), rfl⟩

end EnglishWords

namespace English

open LetterCase (lower)
open EnglishWords (standard)

/-! ## What an irregular word changes among the plurals -/

/-- Tables that say the same of a word in lower case form the same plural. -/
theorem pluralOf_congr {w v : EnglishWords} {word : List Char} (uncountable : v.uncountable = w.uncountable)
    (singular : v.irregular.lookup (lower word) = w.irregular.lookup (lower word))
    (plural : v.listsPlural (lower word) = w.listsPlural (lower word)) :
    pluralOf v word = pluralOf w word := by
  rw [EnglishWords.listsPlural, EnglishWords.listsPlural] at plural
  simp only [pluralOf, uncountable, singular, plural]

theorem matchCase_eq (word plural : List Char) :
    matchCase word plural =
      if word.head?.any LetterCase.isUppercase then LetterCase.capitalized plural else plural := by
  cases word with
  | nil => rfl
  | cons c cs => rfl

/-- The plural of the singular of a word that was added: the plural that was added with it, with a capital
at its start if the singular has one there. An uncountable word stays its own plural. -/
theorem pluralOf_withIrregular_self (w : EnglishWords) (singular plural : String) :
    pluralOf (w.withIrregular singular plural) singular.toList =
      if lower singular.toList ∈ w.uncountable then singular.toList
      else matchCase singular.toList (lower plural.toList) := by
  split
  · next uncountable => exact pluralOf_of_uncountable uncountable
  · next countable => exact pluralOf_of_lookup countable EnglishWords.lookup_withIrregular_self

theorem pluralOf_withIrregular_of_ne {w : EnglishWords} (distinct : w.singulars.Nodup)
    {singular plural : String} {word : List Char} (not_singular : lower word ≠ lower singular.toList)
    (not_new : lower word ≠ lower plural.toList)
    (not_old : w.irregular.lookup (lower singular.toList) ≠ some (lower word)) :
    pluralOf (w.withIrregular singular plural) word = pluralOf w word :=
  pluralOf_congr EnglishWords.uncountable_withIrregular
    (EnglishWords.lookup_withIrregular_of_ne not_singular)
    (EnglishWords.listsPlural_withIrregular distinct not_new not_old)

/-- An irregular word that is added to tables of any history. Its singular has the added plural, with a
capital at the start if the singular has one there, unless the tables have it as uncountable: then it is
its own plural, as before. The plural of a name changes only if the word in it equals, in lower case, the
singular, the added plural or the plural that the singular had before. -/
theorem plural_withIrregular {w : EnglishWords} (additions : List Addition)
    (history : standard.addAll additions = w) (singular plural : String) (nonempty : singular ≠ "")
    (bare : trimmed singular.toList = singular.toList) :
    English.plural (w.withIrregular singular plural) singular =
        (if lower singular.toList ∈ w.uncountable then singular
        else if singular.toList.head?.any LetterCase.isUppercase then
          String.ofList (LetterCase.capitalized (lower plural.toList))
        else String.ofList (lower plural.toList)) ∧
      ∀ name : String, lower (trimmed name.toList) ≠ lower singular.toList →
        lower (trimmed name.toList) ≠ lower plural.toList →
        w.irregular.lookup (lower singular.toList) ≠ some (lower (trimmed name.toList)) →
        English.plural (w.withIrregular singular plural) name = English.plural w name := by
  constructor
  · have nonblank : trimmed singular.toList ≠ [] := by
      rw [bare]
      exact mt String.toList_eq_nil_iff.mp nonempty
    rw [plural_of_nonblank nonblank, bare, pluralOf_withIrregular_self, matchCase_eq]
    split
    · exact String.ofList_toList
    · split
      · rfl
      · rfl
  · intro name not_singular not_new not_old
    have distinct : w.singulars.Nodup :=
      history ▸ EnglishWords.nodup_singulars_addAll EnglishWords.nodup_singulars_standard additions
    by_cases blank : trimmed name.toList = []
    · rw [plural_of_blank blank, plural_of_blank blank]
    · rw [plural_of_nonblank blank, plural_of_nonblank blank,
        pluralOf_withIrregular_of_ne distinct not_singular not_new not_old]

/-- An irregular word and an uncountable one. -/
def aquarium : List Addition := [.irregular "octopus" "octopi", .uncountable "Staff"]

theorem plural_withIrregular_octopus :
    English.plural ((standard.addAll aquarium).withIrregular "Octopus" "octopodes") "Octopus" =
        "Octopodes" ∧
      English.plural ((standard.addAll aquarium).withIrregular "Octopus" "octopodes") " staff" =
        English.plural (standard.addAll aquarium) " staff" := by
  obtain ⟨own, others⟩ :=
    plural_withIrregular aquarium rfl "Octopus" "octopodes" (by decide) (by decide +kernel)
  have countable : lower "Octopus".toList ∉ (standard.addAll aquarium).uncountable := by decide +kernel
  rw [if_neg countable] at own
  exact ⟨own, others " staff" (by decide +kernel) (by decide +kernel) (by decide +kernel)⟩

/-- No plural that is added for `sheep` is used, since that word is uncountable. -/
theorem not_forall_plural_withIrregular :
    ¬ ∀ (additions : List Addition) (singular plural : String), singular ≠ "" →
      trimmed singular.toList = singular.toList → plural ≠ "" → trimmed plural.toList = plural.toList →
      English.plural ((standard.addAll additions).withIrregular singular plural) singular =
        if singular.toList.head?.any LetterCase.isUppercase then
          String.ofList (LetterCase.capitalized (lower plural.toList))
        else String.ofList (lower plural.toList) := by
  intro used
  have sheep := used [] "sheep" "sheeps" (by decide) (by decide +kernel) (by decide) (by decide +kernel)
  exact absurd sheep (by decide +kernel)

end English

end Docstore
