import Docstore.Proofs.Bson.Replacement

/-!
# Escaped names

The three passes of `FieldName.escape` come to one simultaneous substitution
(`escapeChars_eq_flatMap`): no pass finds anything in the words that the passes before it wrote, since
each looks for a single character and the words hold letters and underscores only.

From there on the passes are forgotten. An escaped name holds none of the characters that a store
cannot (`storable_escape`), and the names without them are those that are their own escapes
(`escape_eq_self_iff`). `escape_substitutes` puts this together.
-/

namespace Docstore.FieldName

/-- A name that a store can use as it is: it holds no character that has an escape. -/
def Storable (name : String) : Prop := ∀ e ∈ escapes, e.char ∉ name.toList

instance (name : String) : Decidable (Storable name) :=
  inferInstanceAs (Decidable (∀ e ∈ escapes, e.char ∉ name.toList))

theorem storable_iff {name : String} :
    Storable name ↔ ∀ c ∈ ['.', '$', '\x00'], c ∉ name.toList :=
  (List.forall_mem_map (P := fun c => c ∉ name.toList)).symm

/-- What stands for a character in an escaped name. -/
def escapeChar (c : Char) : List Char :=
  if c = '.' then "__dot__".toList
  else if c = '$' then "__dollar__".toList
  else if c = '\x00' then "__null__".toList
  else [c]

/-- A character without an escape stands for itself. -/
theorem escapeChar_eq_singleton {c : Char} (h : ∀ e ∈ escapes, e.char ≠ c) :
    escapeChar c = [c] := by
  have other : c ≠ '.' ∧ c ≠ '$' ∧ c ≠ '\x00' := by
    simpa [escapes, eq_comm] using h
  rw [escapeChar, if_neg other.1, if_neg other.2.1, if_neg other.2.2]

/-- The passes for one character after another make one substitution. -/
theorem escapeChars_eq_flatMap (cs : List Char) : escapeChars cs = cs.flatMap escapeChar := by
  have each (c : Char) : standsFor escapes c = escapeChar c := by
    by_cases dot : c = '.'
    · subst dot
      decide
    by_cases dollar : c = '$'
    · subst dollar
      decide
    by_cases null : c = '\x00'
    · subst null
      decide
    have other : ∀ e ∈ escapes, e.char ≠ c := by
      simp [escapes, Ne.symm dot, Ne.symm dollar, Ne.symm null]
    rw [escapeChar_eq_singleton other, standsFor]
    exact escapeWith_of_not_mem fun e he => mt List.mem_singleton.mp (other e he)
  rw [escapeChars_eq_escapeWith, escapeWith_eq_flatMap, funext each]

theorem toList_escape (name : String) : (escape name).toList = name.toList.flatMap escapeChar := by
  rw [escape, String.toList_ofList, escapeChars_eq_flatMap]

/-- No character with an escape is left in what stands for a character. -/
theorem not_mem_escapeChar {e : Escape} (he : e ∈ escapes) (c : Char) : e.char ∉ escapeChar c := by
  unfold escapeChar
  simp only [escapes, List.mem_cons, List.not_mem_nil, or_false] at he
  split
  · rcases he with rfl | rfl | rfl <;> decide
  split
  · rcases he with rfl | rfl | rfl <;> decide
  split
  · rcases he with rfl | rfl | rfl <;> decide
  · next dot dollar null =>
    rcases he with rfl | rfl | rfl
    · exact fun h => dot (List.mem_singleton.mp h).symm
    · exact fun h => dollar (List.mem_singleton.mp h).symm
    · exact fun h => null (List.mem_singleton.mp h).symm

/-- An escaped name can be used in a store. -/
theorem storable_escape (name : String) : Storable (escape name) := by
  intro e he h
  rw [toList_escape] at h
  obtain ⟨c, -, hc⟩ := List.mem_flatMap.mp h
  exact not_mem_escapeChar he c hc

/-- A name that can be used in a store is its own escape. -/
theorem escape_of_storable {name : String} (h : Storable name) : escape name = name := by
  rw [escape, escapeChars_eq_escapeWith, escapeWith_of_not_mem h, String.ofList_toList]

/-- The names that are kept by escaping are those that a store can use as they are. -/
theorem escape_eq_self_iff {name : String} : escape name = name ↔ Storable name := by
  constructor
  · intro kept
    exact kept ▸ storable_escape name
  · exact escape_of_storable

/-- Escaping goes through a name part by part: nothing is found across the border of two parts. -/
theorem escape_append (name other : String) : escape (name ++ other) = escape name ++ escape other := by
  apply String.toList_inj.mp
  rw [toList_escape, String.toList_append, List.flatMap_append, String.toList_append, toList_escape,
    toList_escape]

/-- What stands for a character is the character, or begins with a greater one. -/
theorem escapeChar_cases (c : Char) :
    escapeChar c = [c] ∨ c < '_' ∧ ∃ cs, escapeChar c = '_' :: cs := by
  unfold escapeChar
  split
  · next dot => exact .inr ⟨dot ▸ by decide, _, rfl⟩
  split
  · next dollar => exact .inr ⟨dollar ▸ by decide, _, rfl⟩
  split
  · next null => exact .inr ⟨null ▸ by decide, _, rfl⟩
  · exact .inl rfl

/-- Escaping makes no name smaller: all characters that have an escape come before the underscore. -/
theorem le_escape (name : String) : name ≤ escape name := by
  refine String.not_lt.mp fun (lt : (escape name).toList < name.toList) => List.not_lt.mpr ?_ lt
  rw [toList_escape]
  generalize name.toList = cs
  induction cs with
  | nil => exact List.le_refl _
  | cons c cs ih =>
    rw [List.flatMap_cons]
    rcases escapeChar_cases c with kept | ⟨lt, word, escaped⟩
    · rw [kept]
      exact List.cons_le_cons_iff.mpr (.inr ⟨rfl, ih⟩)
    · rw [escaped]
      exact List.cons_le_cons_iff.mpr (.inl lt)

/-- Escaping is one substitution: each character of a name is replaced by what stands for it, or kept,
whatever is around it. So no character that has an escape is left, a name without them is kept, a name
that was escaped is its own escape, and names that are joined may be escaped before or after. -/
theorem escape_substitutes (name : String) :
    (escape name).toList = name.toList.flatMap escapeChar ∧
      (∀ c ∈ ['.', '$', '\x00'], c ∉ (escape name).toList) ∧
        (escape name = name ↔ ∀ c ∈ ['.', '$', '\x00'], c ∉ name.toList) ∧
          escape (escape name) = escape name ∧
            ∀ other, escape (name ++ other) = escape name ++ escape other := by
  have storable := storable_escape name
  rw [← storable_iff, ← storable_iff]
  exact ⟨toList_escape name, storable, escape_eq_self_iff, escape_of_storable storable,
    escape_append name⟩

end Docstore.FieldName
