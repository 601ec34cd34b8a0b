import Docstore.Text.CodeRange

/-!
# White space

The characters with the Unicode property `White_Space`, and the removal of those around a text. The
main laws are `trimmed_trimmed`, that a trimmed text has none left to remove, and `trimmed_eq_self_iff`,
by which a text is told to be trimmed from its first and its last character.
-/

namespace Docstore

/-- The characters with the property `White_Space`. -/
def blankRanges : List CodeRange := [
  ⟨0x9, 0xd, 1⟩, ⟨0x20, 0x20, 1⟩, ⟨0x85, 0x85, 1⟩, ⟨0xa0, 0xa0, 1⟩, ⟨0x1680, 0x1680, 1⟩,
  ⟨0x2000, 0x200a, 1⟩, ⟨0x2028, 0x2029, 1⟩, ⟨0x202f, 0x202f, 1⟩, ⟨0x205f, 0x205f, 1⟩,
  ⟨0x3000, 0x3000, 1⟩]

def isBlank (c : Char) : Bool := CodeRange.anyContains blankRanges c

/-- A text without the white space around it. -/
def trimmed (cs : List Char) : List Char :=
  ((cs.dropWhile isBlank).reverse.dropWhile isBlank).reverse

theorem isBlank_of_isWhitespace {c : Char} (h : c.isWhitespace = true) : isBlank c = true := by
  simp only [Char.isWhitespace, Bool.or_eq_true, decide_eq_true_eq] at h
  rcases h with ((rfl | rfl) | rfl) | rfl <;> decide

theorem isBlank_eq_false_of_dropWhile {c : Char} {cs rest : List Char}
    (h : cs.dropWhile isBlank = c :: rest) : isBlank c = false := by
  have := List.head_dropWhile_not (p := isBlank) (by simp [h] : cs.dropWhile isBlank ≠ [])
  simpa [h] using this

/-- A trimmed text has no white space left to remove. -/
theorem trimmed_trimmed (cs : List Char) : trimmed (trimmed cs) = trimmed cs := by
  have again : ∀ l : List Char, (l.dropWhile isBlank).dropWhile isBlank = l.dropWhile isBlank := by
    intro l
    cases h : l.dropWhile isBlank with
    | nil => rfl
    | cons c rest => simp [isBlank_eq_false_of_dropWhile h]
  generalize ha : cs.dropWhile isBlank = a
  have front : ((a.reverse.dropWhile isBlank).reverse).dropWhile isBlank =
      (a.reverse.dropWhile isBlank).reverse := by
    cases hb : (a.reverse.dropWhile isBlank).reverse with
    | nil => rfl
    | cons c rest =>
      have split := congrArg List.reverse (List.takeWhile_append_dropWhile (p := isBlank) (l := a.reverse))
      rw [List.reverse_append, List.reverse_reverse, hb] at split
      have : isBlank c = false := isBlank_eq_false_of_dropWhile (ha.trans split.symm)
      simp [this]
  simp only [trimmed, ha, front, List.reverse_reverse, again]

theorem dropWhile_isBlank_eq_self_iff {cs : List Char} :
    cs.dropWhile isBlank = cs ↔ ∀ c ∈ cs.head?, isBlank c = false := by
  cases cs with
  | nil => simp
  | cons c cs =>
    have shorter : cs.dropWhile isBlank ≠ c :: cs := by
      intro same
      have suffix_of : (cs.dropWhile isBlank).length ≤ cs.length :=
        (List.dropWhile_suffix isBlank).length_le
      rw [same, List.length_cons] at suffix_of
      exact Nat.not_succ_le_self _ suffix_of
    cases blank : isBlank c <;> simp [blank, shorter]

/-- A text is trimmed if it neither starts nor ends with white space. -/
theorem trimmed_eq_self_iff {cs : List Char} : trimmed cs = cs ↔
    (∀ c ∈ cs.head?, isBlank c = false) ∧ ∀ c ∈ cs.getLast?, isBlank c = false := by
  have last_iff : (cs.reverse.dropWhile isBlank).reverse = cs ↔
      ∀ c ∈ cs.getLast?, isBlank c = false := by
    rw [← List.head?_reverse, ← dropWhile_isBlank_eq_self_iff, List.reverse_eq_iff]
  rw [← dropWhile_isBlank_eq_self_iff, ← last_iff]
  constructor
  · intro h
    have front : cs.dropWhile isBlank = cs := by
      refine (List.dropWhile_suffix isBlank).eq_of_length_le ?_
      have inner : ((cs.dropWhile isBlank).reverse.dropWhile isBlank).length ≤
          (cs.dropWhile isBlank).reverse.length := (List.dropWhile_suffix isBlank).length_le
      rw [List.length_reverse, ← List.length_reverse, ← trimmed, h] at inner
      exact inner
    exact ⟨front, by rwa [trimmed, front] at h⟩
  · rintro ⟨front, back⟩
    rw [trimmed, front, back]

/-- A text that ends otherwise than a trimmed one is trimmed if its new ending is. -/
theorem trimmed_take_append {cs ending : List Char} (hcs : trimmed cs = cs)
    (hending : trimmed ending = ending) (nonempty : ending ≠ []) (n : Nat) :
    trimmed (cs.take n ++ ending) = cs.take n ++ ending := by
  rw [trimmed_eq_self_iff] at hcs hending ⊢
  rw [List.head?_append, List.head?_take, List.getLast?_append]
  constructor
  · intro c first
    rcases Option.or_eq_some_iff.mp first with kept | ⟨-, replaced⟩
    · split at kept
      · cases kept
      · exact hcs.1 c kept
    · exact hending.1 c replaced
  · obtain ⟨d, last⟩ := Option.isSome_iff_exists.mp (List.getLast?_isSome.mpr nonempty)
    rw [last, Option.some_or]
    exact fun c same => hending.2 c (last.trans same)

end Docstore
