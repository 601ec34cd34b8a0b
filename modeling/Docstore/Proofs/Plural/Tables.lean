import Docstore.Proofs.Plural.Endings

/-!
# Words of the tables

How the plural of a word is formed, by where its lower case stands in the tables: it may be a singular
there (`EnglishWords.singulars`), a plural (`EnglishWords.plurals`, which has the uncountable words,
too), or neither. The first half holds for all tables.

In the standard tables no plural is a singular as well, or ends as a singular in `s` does
(`EnglishWords.standard_plurals`), and the singulars in `s` have a `u`, `a` or `i` before it
(`EnglishWords.standard_singulars`). A plural by these tables is a name again if the word was one: it is
not empty and has no white space around it (`English.pluralOf_bare`).
-/

namespace Docstore

namespace EnglishWords

/-- The singulars of the tables. -/
def singulars (w : EnglishWords) : List (List Char) := w.irregular.map Prod.fst

/-- The words of the tables that are plurals, or their own plural. -/
def plurals (w : EnglishWords) : List (List Char) := w.uncountable ++ w.irregular.map Prod.snd

variable {w : EnglishWords} {word : List Char}

theorem lookup_eq_none_iff : w.irregular.lookup word = none ↔ word ∉ w.singulars := by
  rw [List.lookup_eq_none_iff, singulars, List.mem_map]
  constructor
  · rintro other ⟨e, he, rfl⟩
    simpa using other e he
  · intro other e he
    exact bne_iff_ne.mpr fun same => other ⟨e, he, same.symm⟩

theorem mem_of_lookup {plural : List Char} (h : w.irregular.lookup word = some plural) :
    (word, plural) ∈ w.irregular := by
  obtain ⟨before, after, same, -⟩ := List.lookup_eq_some_iff.mp h
  exact same ▸ List.mem_append_right before List.mem_cons_self

/-! ## The standard tables -/

theorem standard_irregular : ∀ e ∈ standard.irregular,
    LetterCase.lower e.2 = e.2 ∧ LetterCase.lower (LetterCase.capitalized e.2) = e.2 ∧
      (e.2 ≠ [] ∧ trimmed e.2 = e.2) ∧ LetterCase.capitalized e.2 ≠ [] ∧
        trimmed (LetterCase.capitalized e.2) = LetterCase.capitalized e.2 := by
  decide +kernel

theorem standard_plurals : ∀ word ∈ standard.plurals, word ∉ standard.singulars ∧
    English.endsIn word English.singularEndings = false ∧
      (English.endsIn word ["s"] = true →
        word.all (fun c => LetterCase.isAscii c && c != 'k') = true) := by
  decide +kernel

theorem standard_singulars : ∀ word ∈ standard.singulars, English.endsIn word ["es"] = false ∧
    (English.endsIn word ["s"] = true → English.endsIn word ["us", "as", "is"] = true) := by
  decide +kernel

end EnglishWords

namespace English

variable {w : EnglishWords} {word : List Char}

/-! ## The cases of a plural -/

theorem pluralOf_of_uncountable (h : LetterCase.lower word ∈ w.uncountable) :
    pluralOf w word = word :=
  if_pos (List.contains_iff_mem.mpr h)

theorem pluralOf_of_lookup {plural : List Char} (countable : LetterCase.lower word ∉ w.uncountable)
    (found : w.irregular.lookup (LetterCase.lower word) = some plural) :
    pluralOf w word = matchCase word plural := by
  simp only [pluralOf, List.contains_iff_mem, if_neg countable, found]

/-- A countable singular of the tables has its plural from there. -/
theorem exists_pluralOf_of_singular (countable : LetterCase.lower word ∉ w.uncountable)
    (h : LetterCase.lower word ∈ w.singulars) :
    ∃ e ∈ w.irregular, pluralOf w word = matchCase word e.2 := by
  obtain ⟨plural, found⟩ : ∃ plural, w.irregular.lookup (LetterCase.lower word) = some plural :=
    Option.ne_none_iff_exists'.mp fun missing => EnglishWords.lookup_eq_none_iff.mp missing h
  exact ⟨_, EnglishWords.mem_of_lookup found, pluralOf_of_lookup countable found⟩

/-- A plural of the tables stays as it is, unless it is a singular, too. -/
theorem pluralOf_of_plural (h : LetterCase.lower word ∈ w.plurals)
    (not_singular : LetterCase.lower word ∉ w.singulars) : pluralOf w word = word := by
  rcases List.mem_append.mp h with uncountable | plural
  · exact pluralOf_of_uncountable uncountable
  · obtain ⟨e, he, same⟩ := List.mem_map.mp plural
    have listed : w.irregular.any (fun e => e.2 == LetterCase.lower word) = true :=
      List.any_eq_true.mpr ⟨e, he, beq_iff_eq.mpr same⟩
    simp [pluralOf, EnglishWords.lookup_eq_none_iff.mpr not_singular, listed]

theorem pluralOf_of_unlisted (not_singular : LetterCase.lower word ∉ w.singulars)
    (not_plural : LetterCase.lower word ∉ w.plurals) :
    pluralOf w word = if word.all LetterCase.isAscii then (change (LetterCase.lower word)).apply word
      else word ++ "s".toList := by
  obtain ⟨countable, not_plural⟩ := not_or.mp (mt List.mem_append.mpr not_plural)
  have unlisted : w.irregular.any (fun e => e.2 == LetterCase.lower word) = false :=
    List.any_eq_false.mpr fun e he same =>
      not_plural (List.mem_map.mpr ⟨e, he, beq_iff_eq.mp same⟩)
  simp [pluralOf, countable, EnglishWords.lookup_eq_none_iff.mpr not_singular, unlisted]

/-- The plural of a name that is not all white space is that of the word in it. -/
theorem plural_of_nonblank {name : String} (h : trimmed name.toList ≠ []) :
    plural w name = String.ofList (pluralOf w (trimmed name.toList)) :=
  if_neg (mt List.isEmpty_iff.mp h)

theorem plural_of_blank {name : String} (h : trimmed name.toList = []) : plural w name = "" :=
  if_pos (List.isEmpty_iff.mpr h)

theorem matchCase_cases (word plural : List Char) :
    matchCase word plural = plural ∨ matchCase word plural = LetterCase.capitalized plural := by
  cases word with
  | nil => exact .inl rfl
  | cons c cs =>
    rw [matchCase]
    split
    · exact .inr rfl
    · exact .inl rfl

/-! ## Plurals by the standard tables -/

theorem lower_matchCase {e : List Char × List Char} (he : e ∈ EnglishWords.standard.irregular)
    (word : List Char) : LetterCase.lower (matchCase word e.2) = e.2 := by
  obtain ⟨same, capital, -⟩ := EnglishWords.standard_irregular e he
  rcases matchCase_cases word e.2 with h | h <;> rw [h] <;> assumption

/-- The plural of a word that is not empty and has no white space around it is such a word. -/
theorem pluralOf_bare (nonempty : word ≠ []) (bare : trimmed word = word) :
    pluralOf .standard word ≠ [] ∧
      trimmed (pluralOf .standard word) = pluralOf .standard word := by
  by_cases plural : LetterCase.lower word ∈ EnglishWords.standard.plurals
  · rw [pluralOf_of_plural plural (EnglishWords.standard_plurals _ plural).1]
    exact ⟨nonempty, bare⟩
  by_cases singular : LetterCase.lower word ∈ EnglishWords.standard.singulars
  · obtain ⟨e, he, same⟩ := exists_pluralOf_of_singular (mt (List.mem_append_left _) plural) singular
    obtain ⟨-, -, as_listed, capital⟩ := EnglishWords.standard_irregular e he
    rw [same]
    rcases matchCase_cases word e.2 with h | h <;> rw [h] <;> assumption
  rw [pluralOf_of_unlisted singular plural]
  split
  · exact ⟨apply_ne_nil (change_mem _) nonempty, trimmed_apply (change_mem _) bare⟩
  · have plain : ⟨0, "s".toList⟩ ∈ changes := by simp [changes]
    rw [← apply_drop_zero]
    exact ⟨apply_ne_nil plain nonempty, trimmed_apply plain bare⟩

end English

end Docstore
