import Docstore.Bson.FieldName

/-!
# Replacing, pass by pass

`FieldName.replaceAll` looks for a pattern from left to right and goes on after what it has replaced.
`FieldName.replacing_induction` is the induction that goes with it: over an occurrence at the front, or
else over one character. `Escape.make` and `Escape.undo` are the two passes of one escape. Where the
passes look for a single character they have no choice, so they all come to one simultaneous
substitution (`escapeWith_eq_flatMap`); on the way back they do, and only one composition is the
identity without further conditions: escaping what was restored (`escapeWith_restoreWith`).
-/

namespace Docstore.FieldName

/-! ## Replacing -/

section Replacing

variable {pattern replacement : List Char}

theorem replaceFrom_skip (skip : Nat) (cs : List Char) :
    replaceFrom pattern replacement skip cs = replaceAll pattern replacement (cs.drop skip) := by
  induction skip generalizing cs with
  | zero => rfl
  | succ skip ih =>
    cases cs with
    | nil => rfl
    | cons c cs => exact ih cs

/-- An occurrence at the front is replaced, and what follows it is looked at anew. -/
theorem replaceAll_append (occurs : pattern ≠ []) (cs : List Char) :
    replaceAll pattern replacement (pattern ++ cs) =
      replacement ++ replaceAll pattern replacement cs := by
  obtain ⟨p, ps, rfl⟩ := List.exists_cons_of_ne_nil occurs
  have front : (p :: ps).isPrefixOf (p :: (ps ++ cs)) = true :=
    List.isPrefixOf_iff_prefix.mpr (List.prefix_append (p :: ps) cs)
  show replaceFrom (p :: ps) replacement 0 (p :: (ps ++ cs)) = _
  rw [replaceFrom, if_pos front, replaceFrom_skip, List.length_cons, Nat.add_sub_cancel,
    List.drop_left]

/-- A character at which no occurrence begins is kept. -/
theorem replaceAll_cons {c : Char} {cs : List Char} (h : ¬ pattern <+: c :: cs) :
    replaceAll pattern replacement (c :: cs) = c :: replaceAll pattern replacement cs := by
  rw [replaceAll, replaceFrom, if_neg fun front => h (List.isPrefixOf_iff_prefix.mp front)]
  rfl

/-- Induction along a replacement: over an occurrence at the front, or else over one character. -/
theorem replacing_induction (occurs : pattern ≠ []) {motive : List Char → Prop} (nil : motive [])
    (occurrence : ∀ cs, motive cs → motive (pattern ++ cs))
    (other : ∀ c cs, ¬ pattern <+: c :: cs → motive cs → motive (c :: cs)) (cs : List Char) :
    motive cs := by
  match cs with
  | [] => exact nil
  | c :: rest =>
    by_cases front : pattern <+: c :: rest
    · obtain ⟨after, split_at⟩ := front
      have shorter : after.length < (c :: rest).length := by
        have := List.length_pos_iff.mpr occurs
        rw [← split_at, List.length_append]
        omega
      rw [← split_at]
      exact occurrence after (replacing_induction occurs nil occurrence other after)
    · exact other c rest front (replacing_induction occurs nil occurrence other rest)
termination_by cs.length
decreasing_by
  · exact shorter
  · exact Nat.lt_succ_self rest.length

/-- What stands for a character after one of them is replaced by a word. -/
def substitute (c : Char) (word : List Char) (x : Char) : List Char :=
  if x = c then word else [x]

/-- Replacing a single character leaves no place for a choice: each character is replaced or kept. -/
theorem replaceAll_singleton (c : Char) (word cs : List Char) :
    replaceAll [c] word cs = cs.flatMap (substitute c word) := by
  induction cs with
  | nil => rfl
  | cons x cs ih =>
    rw [List.flatMap_cons, ← ih, substitute]
    by_cases h : x = c
    · simp [replaceAll, replaceFrom, h]
    · simp [replaceAll, replaceFrom, h, Ne.symm h]

end Replacing

/-! ## One pass -/

namespace Escape

/-- Makes one escape. -/
def make (e : Escape) (cs : List Char) : List Char := replaceAll [e.char] e.word cs

/-- Undoes one escape. -/
def undo (e : Escape) (cs : List Char) : List Char := replaceAll e.word [e.char] cs

theorem make_eq_flatMap (e : Escape) (cs : List Char) :
    e.make cs = cs.flatMap (substitute e.char e.word) :=
  replaceAll_singleton e.char e.word cs

theorem make_cons_char (e : Escape) (cs : List Char) : e.make (e.char :: cs) = e.word ++ e.make cs := by
  rw [make_eq_flatMap, List.flatMap_cons, substitute, if_pos rfl, ← make_eq_flatMap]

theorem make_cons_of_ne {e : Escape} {c : Char} (h : c ≠ e.char) (cs : List Char) :
    e.make (c :: cs) = c :: e.make cs := by
  rw [make_eq_flatMap, List.flatMap_cons, substitute, if_neg h, ← make_eq_flatMap]
  rfl

theorem make_of_not_mem {e : Escape} {cs : List Char} (h : e.char ∉ cs) : e.make cs = cs := by
  induction cs with
  | nil => rfl
  | cons c cs ih =>
    rw [make_cons_of_ne (List.ne_of_not_mem_cons h).symm, ih (List.not_mem_of_not_mem_cons h)]

variable {e : Escape}

/-- Making an escape again after undoing it gives back a text without the character. -/
theorem make_undo (word : e.word ≠ []) {cs : List Char} (h : e.char ∉ cs) :
    e.make (e.undo cs) = cs := by
  induction cs using replacing_induction word with
  | nil => rfl
  | occurrence cs ih =>
    rw [undo, replaceAll_append word]
    show e.make (e.char :: e.undo cs) = _
    rw [make_cons_char, ih fun there => h (List.mem_append_right _ there)]
  | other c cs no_occurrence ih =>
    rw [undo, replaceAll_cons no_occurrence]
    show e.make (c :: e.undo cs) = _
    rw [make_cons_of_ne (List.ne_of_not_mem_cons h).symm, ih (List.not_mem_of_not_mem_cons h)]

/-- Undoing an escape brings no new character but that of the escape. -/
theorem mem_undo (word : e.word ≠ []) {c : Char} {cs : List Char} (h : c ∈ e.undo cs) :
    c = e.char ∨ c ∈ cs := by
  induction cs using replacing_induction word with
  | nil => cases h
  | occurrence cs ih =>
    rw [undo, replaceAll_append word] at h
    rcases List.mem_cons.mp h with rfl | h
    · exact .inl rfl
    · exact (ih h).imp_right (List.mem_append_right _)
  | other d cs no_occurrence ih =>
    rw [undo, replaceAll_cons no_occurrence] at h
    rcases List.mem_cons.mp h with rfl | h
    · exact .inr List.mem_cons_self
    · exact (ih h).imp_right (List.mem_cons_of_mem _)

end Escape

/-! ## All passes -/

/-- Makes escapes, one after another. -/
def escapeWith (es : List Escape) (cs : List Char) : List Char := es.foldl (fun cs e => e.make cs) cs

/-- Undoes escapes, the last one first. -/
def restoreWith (es : List Escape) (cs : List Char) : List Char := es.foldr Escape.undo cs

theorem escapeChars_eq_escapeWith (cs : List Char) : escapeChars cs = escapeWith escapes cs := rfl

theorem restoreChars_eq_restoreWith (cs : List Char) : restoreChars cs = restoreWith escapes cs := rfl

/-- What stands for a character once escapes are made. -/
def standsFor (es : List Escape) (c : Char) : List Char := escapeWith es [c]

/-- Each character is escaped by itself. -/
theorem escapeWith_eq_flatMap (es : List Escape) (cs : List Char) :
    escapeWith es cs = cs.flatMap (standsFor es) := by
  induction es generalizing cs with
  | nil => exact (List.flatMap_singleton' cs).symm
  | cons e es ih =>
    have after (c : Char) :
        standsFor (e :: es) c = (substitute e.char e.word c).flatMap (standsFor es) := by
      show escapeWith es (e.make [c]) = _
      rw [ih, Escape.make_eq_flatMap, List.flatMap_singleton]
    show escapeWith es (e.make cs) = _
    rw [ih, Escape.make_eq_flatMap, List.flatMap_assoc]
    exact congrArg (cs.flatMap ·) (funext after).symm

theorem escapeWith_of_not_mem {es : List Escape} {cs : List Char} (h : ∀ e ∈ es, e.char ∉ cs) :
    escapeWith es cs = cs := by
  induction es with
  | nil => rfl
  | cons e es ih =>
    obtain ⟨first, rest⟩ := List.forall_mem_cons.mp h
    show escapeWith es (e.make cs) = cs
    rw [Escape.make_of_not_mem first, ih rest]

/-- What is restored with escapes has no new characters but theirs. -/
theorem mem_restoreWith {es : List Escape} (words : ∀ e ∈ es, e.word ≠ []) {c : Char} {cs : List Char}
    (h : c ∈ restoreWith es cs) : c ∈ es.map Escape.char ∨ c ∈ cs := by
  induction es with
  | nil => exact .inr h
  | cons e es ih =>
    obtain ⟨word, words⟩ := List.forall_mem_cons.mp words
    rcases Escape.mem_undo word h with rfl | h
    · exact .inl List.mem_cons_self
    · exact (ih words h).imp_left (List.mem_cons_of_mem _)

/-- Escaping gives back a text that was restored, if it held none of the characters. -/
theorem escapeWith_restoreWith {es : List Escape} (words : ∀ e ∈ es, e.word ≠ [])
    (chars : (es.map Escape.char).Nodup) {cs : List Char} (h : ∀ e ∈ es, e.char ∉ cs) :
    escapeWith es (restoreWith es cs) = cs := by
  induction es with
  | nil => rfl
  | cons e es ih =>
    obtain ⟨word, words⟩ := List.forall_mem_cons.mp words
    obtain ⟨other, chars⟩ := List.nodup_cons.mp chars
    obtain ⟨first, rest⟩ := List.forall_mem_cons.mp h
    have not_mem : e.char ∉ restoreWith es cs := fun there =>
      (mem_restoreWith words there).elim other first
    show escapeWith es (e.make (e.undo (restoreWith es cs))) = cs
    rw [Escape.make_undo word not_mem, ih words chars rest]

end Docstore.FieldName
