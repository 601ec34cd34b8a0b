import Docstore.Text.Blank

/-!
# Texts with white space around them

`Padded word cs` says that `cs` is a word with white space around it. Every text is padding around what
is left of it when it is trimmed (`padded_trimmed`), and padding does not change what is left
(`Padded.trimmed_eq`). So the texts that differ only in the white space around them are those that
become one when they are trimmed (`trimmed_eq_trimmed_iff`).
-/

namespace Docstore

/-- A text that is a word with white space before and after it, either of which may be empty. -/
def Padded (word cs : List Char) : Prop :=
  ∃ before after, (∀ c ∈ before, isBlank c = true) ∧ (∀ c ∈ after, isBlank c = true) ∧
    cs = before ++ word ++ after

theorem dropWhile_isBlank_eq_nil {cs : List Char} (blank : ∀ c ∈ cs, isBlank c = true) :
    cs.dropWhile isBlank = [] := by
  rw [← List.append_nil cs, List.dropWhile_append_of_pos blank, List.dropWhile_nil]

/-- White space at the end stays there when that at the start is removed, unless there is nothing else. -/
theorem dropWhile_isBlank_append (cs : List Char) {after : List Char}
    (blank : ∀ c ∈ after, isBlank c = true) :
    (cs ++ after).dropWhile isBlank = [] ∧ cs.dropWhile isBlank = [] ∨
      (cs ++ after).dropWhile isBlank = cs.dropWhile isBlank ++ after := by
  rw [List.dropWhile_append]
  cases cs.dropWhile isBlank with
  | nil => exact .inl ⟨dropWhile_isBlank_eq_nil blank, rfl⟩
  | cons c rest => exact .inr rfl

/-- White space around a word is removed together with any that the word has itself. -/
theorem Padded.trimmed_eq {word cs : List Char} (h : Padded word cs) : trimmed cs = trimmed word := by
  obtain ⟨before, after, hbefore, hafter, rfl⟩ := h
  have hreversed : ∀ c ∈ after.reverse, isBlank c = true := by
    intro c hc
    exact hafter c (List.mem_reverse.mp hc)
  rw [trimmed, trimmed, List.append_assoc, List.dropWhile_append_of_pos hbefore]
  rcases dropWhile_isBlank_append word hafter with ⟨nothing, nor_before⟩ | kept
  · rw [nothing, nor_before]
  · rw [kept, List.reverse_append, List.dropWhile_append_of_pos hreversed]

theorem padded_trimmed (cs : List Char) : Padded (trimmed cs) cs := by
  refine ⟨cs.takeWhile isBlank, ((cs.dropWhile isBlank).reverse.takeWhile isBlank).reverse, ?_, ?_, ?_⟩
  · intro c hc
    exact List.all_eq_true.mp List.all_takeWhile c hc
  · intro c hc
    exact List.all_eq_true.mp List.all_takeWhile c (List.mem_reverse.mp hc)
  · rw [trimmed, List.append_assoc, ← List.reverse_append, List.takeWhile_append_dropWhile,
      List.reverse_reverse, List.takeWhile_append_dropWhile]

theorem trimmed_eq_trimmed_iff {cs ds : List Char} :
    trimmed cs = trimmed ds ↔ ∃ word, Padded word cs ∧ Padded word ds := by
  constructor
  · intro same
    exact ⟨trimmed cs, padded_trimmed cs, same ▸ padded_trimmed ds⟩
  · rintro ⟨word, hcs, hds⟩
    exact hcs.trimmed_eq.trans hds.trimmed_eq.symm

theorem trimmed_subset (cs : List Char) : trimmed cs ⊆ cs := by
  obtain ⟨before, after, -, -, split_at⟩ := padded_trimmed cs
  intro c hc
  rw [split_at]
  exact List.mem_append_left _ (List.mem_append_right _ hc)

/-- Nothing is left of a text exactly if it is all white space. -/
theorem trimmed_eq_nil_iff {cs : List Char} : trimmed cs = [] ↔ ∀ c ∈ cs, isBlank c = true := by
  constructor
  · intro nothing
    obtain ⟨before, after, hbefore, hafter, split_at⟩ := padded_trimmed cs
    rw [split_at, nothing, List.append_nil]
    exact List.forall_mem_append.mpr ⟨hbefore, hafter⟩
  · intro blank
    rw [trimmed, dropWhile_isBlank_eq_nil blank]
    rfl

end Docstore
