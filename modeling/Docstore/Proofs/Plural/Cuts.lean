import Docstore.Proofs.Plural.Tables
import Docstore.Proofs.Text.Bytes

/-!
# Words that are cut by bytes

The rules for endings look at a word in lower case, and drop characters from the word as it is. In a text
of bytes that is a cut at a place counted from the end (`English.cutRules?`), which fails for a text that
is too short, and inside a character. `English.plural_cuts_between_characters` says that it never does,
whatever the tables are: the plural of every text is found by cutting bytes, too.

The rules are left open in `English.pluralBy?`, so that it can be said which words they are asked for
(`English.AsksRules`). There is at most one for a name, the word in it, and it is ASCII
(`English.asksRules_or_settled`). There bytes are characters, and a rule drops no more of them than the
ending has that it looks for (`English.drop_change_le_length`).
-/

namespace Docstore.English

open EnglishWords (standard)
open LetterCase (lowerText AsciiText isAscii)

variable {w : EnglishWords} {name word lower : String}

/-- Rules for endings: from a word and its lower case they form the plural, or fail. -/
abbrev Rules := String → String → Option String

/-- The plural of a text, where the words that are left to the rules for endings are left to `rules`. -/
def pluralBy? (rules : Rules) (w : EnglishWords) (name : String) : Option String :=
  let word := trimmed name.toList
  let lower := LetterCase.lower word
  if word.isEmpty then some ""
  else if w.uncountable.contains lower then some (String.ofList word)
  else match w.irregular.lookup lower with
    | some plural => some (String.ofList (matchCase word plural))
    | none =>
      if w.irregular.any fun e => e.2 == lower then some (String.ofList word)
      else if word.all isAscii then rules (String.ofList word) (String.ofList lower)
      else some (String.ofList word ++ "s")

/-- The rules for endings with characters dropped. -/
def dropRules : Rules := fun word lower =>
  some (String.ofList ((change lower.toList).apply word.toList))

/-- The rules for endings with bytes cut off. What is cut is the word, by what its lower case ends in. -/
def cutRules? : Rules := fun word lower =>
  (cutEnd? word (change lower.toList).drop).map (· ++ String.ofList (change lower.toList).ending)

/-- Whether the plural of a name is what the rules make of a word and its lower case, whatever they are. -/
def AsksRules (w : EnglishWords) (name word lower : String) : Prop :=
  ∀ rules, pluralBy? rules w name = rules word lower

/-! ## Which words the rules are asked for -/

/-- The plural of a text is formed by dropping characters. -/
theorem pluralBy?_dropRules (w : EnglishWords) (name : String) :
    pluralBy? dropRules w name = some (plural w name) := by
  simp only [pluralBy?, plural, pluralOf]
  split
  · rfl
  split
  · rfl
  cases w.irregular.lookup (LetterCase.lower (trimmed name.toList)) with
  | some plural => rfl
  | none =>
    dsimp only
    split
    · rfl
    split
    · rw [dropRules, String.toList_ofList, String.toList_ofList]
    · rw [String.ofList_append, String.ofList_toList]

/-- Either the rules are asked for the word in a name, which is ASCII then, or they do not matter. -/
theorem asksRules_or_settled (w : EnglishWords) (name : String) :
    (∃ word, word.toList = trimmed name.toList ∧ AsciiText word ∧
        AsksRules w name word (lowerText word)) ∨
      ∃ plural, ∀ rules, pluralBy? rules w name = some plural := by
  simp only [AsksRules, pluralBy?]
  split
  · exact .inr ⟨_, fun _ => rfl⟩
  split
  · exact .inr ⟨_, fun _ => rfl⟩
  split
  · exact .inr ⟨_, fun _ => rfl⟩
  split
  · exact .inr ⟨_, fun _ => rfl⟩
  split
  · next ascii =>
    refine .inl ⟨String.ofList (trimmed name.toList), String.toList_ofList, ?_, fun rules => ?_⟩
    · rwa [AsciiText, String.toList_ofList]
    · rw [lowerText, String.toList_ofList]
  · exact .inr ⟨_, fun _ => rfl⟩

/-- The rules are asked for no other word than the one in the name. -/
theorem AsksRules.word_eq (asked : AsksRules w name word lower) :
    word.toList = trimmed name.toList ∧ AsciiText word ∧ lower = lowerText word := by
  rcases asksRules_or_settled w name with ⟨one, same, ascii, asked_one⟩ | ⟨plural, settled⟩
  · -- rules that give back what they are asked for tell that it is one word, and one lower case
    have word_eq := (asked fun word _ => some word).symm.trans (asked_one _)
    have lower_eq := (asked fun _ lower => some lower).symm.trans (asked_one _)
    cases Option.some.inj word_eq
    exact ⟨same, ascii, Option.some.inj lower_eq⟩
  · cases (asked fun _ _ => none).symm.trans (settled _)

/-! ## Cuts by bytes -/

/-- For ASCII words it makes no difference whether characters are dropped or bytes cut off. -/
theorem cutRules?_of_ascii (ascii : AsciiText word) :
    cutRules? word (lowerText word) = dropRules word (lowerText word) := by
  have le : (change (lowerText word).toList).drop ≤ word.toList.length := by
    have fits := drop_change_le_length (lowerText word).toList
    rwa [← utf8ByteSize_of_ascii ascii.lowerText, utf8ByteSize_lowerText ascii,
      utf8ByteSize_of_ascii ascii] at fits
  rw [cutRules?, cutEnd?_of_ascii ascii le, Option.map_some, ← String.ofList_append]
  rfl

theorem pluralBy?_cutRules? (w : EnglishWords) (name : String) :
    pluralBy? cutRules? w name = some (plural w name) := by
  rw [← pluralBy?_dropRules]
  rcases asksRules_or_settled w name with ⟨word, -, ascii, asked⟩ | ⟨plural, settled⟩
  · rw [asked, asked, cutRules?_of_ascii ascii]
  · rw [settled, settled]

theorem changes_short : ∀ c ∈ changes, c.drop ≤ 2 ∧
    String.ofList c.ending ∈ ["", "s", "es", "ies", "ves"] := by
  decide

/-- By any tables, the plural of any text is found by cutting bytes. When the rules for endings are asked,
then for the word in the text and its lower case, which has as many bytes; and the place where they cut
is in the word, between two characters. They give the word without its last characters, two at most,
followed by one of five endings. -/
theorem plural_cuts_between_characters (w : EnglishWords) (name : String) :
    pluralBy? cutRules? w name = some (plural w name) ∧
      ∀ word lower, AsksRules w name word lower →
        (word.toList = trimmed name.toList ∧ lower = lowerText word ∧
          word.utf8ByteSize = lower.utf8ByteSize) ∧
        ((change lower.toList).drop ≤ word.utf8ByteSize ∧
          (⟨word.utf8ByteSize - (change lower.toList).drop⟩ : String.Pos.Raw).IsValid word) ∧
        ∃ front dropped ending, word = front ++ dropped ∧ dropped.length ≤ 2 ∧
          ending ∈ ["", "s", "es", "ies", "ves"] ∧ plural w name = front ++ ending := by
  refine ⟨pluralBy?_cutRules? w name, ?_⟩
  intro word lower asked
  obtain ⟨same, ascii, lower_eq⟩ := asked.word_eq
  have same_size : word.utf8ByteSize = lower.utf8ByteSize := by
    rw [lower_eq, utf8ByteSize_lowerText ascii]
  -- what the rules form is the plural, so their cut is one that there is
  have formed : cutRules? word lower = some (plural w name) :=
    (asked cutRules?).symm.trans (pluralBy?_cutRules? w name)
  obtain ⟨front, cut, plural_eq⟩ := Option.map_eq_some_iff.mp formed
  obtain ⟨dropped, word_eq, size⟩ := exists_of_cutEnd? cut
  obtain ⟨drop_le, listed⟩ := changes_short _ (change_mem lower.toList)
  have short : dropped.length ≤ 2 := by
    have length_le := length_le_utf8ByteSize dropped.toList
    rw [String.ofList_toList, String.length_toList, size] at length_le
    exact Nat.le_trans length_le drop_le
  exact ⟨⟨same, lower_eq, same_size⟩, exists_cutEnd?_iff.mp ⟨front, cut⟩, front, dropped, _, word_eq,
    short, listed, plural_eq.symm⟩

theorem plural_cuts_between_characters_knife :
    AsksRules standard " Knife" "Knife" "knife" ∧ pluralBy? cutRules? standard " Knife" = some "Knives" ∧
      (⟨"Knife".utf8ByteSize - 2⟩ : String.Pos.Raw).IsValid "Knife" := by
  obtain ⟨formed, cuts⟩ := plural_cuts_between_characters standard " Knife"
  have asked : AsksRules standard " Knife" "Knife" "knife" := fun _ => rfl
  have knives : plural standard " Knife" = "Knives" := by decide +kernel
  exact ⟨asked, knives ▸ formed, (cuts "Knife" "knife" asked).2.1.2⟩

end Docstore.English
