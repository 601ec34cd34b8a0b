import Docstore.Proofs.Bson.FieldName

/-!
# Names that are found again

A word is letters in a frame of underscores. The passes of `FieldName.restore` find the words that
`FieldName.escape` wrote, and also whatever looks like one: letters that were in the name and stand
between underscores that were in the name, or that begin or end the word for a neighbouring character.
Each pass is looked at by itself.

* Letters that are found in a written name were in the name (`exists_of_escapeWith_eq`), since the
  letters of an escape are in no word before its own.
* Two underscores are written at the end of a text exactly where a left border stands
  (`frame_suffix_iff`), and at its start exactly where a right border does (`frame_prefix_iff`). The
  one follows from the other in the mirror.
* Undoing an escape right after making it fails exactly at letters between two underscores on either
  side (`Escape.Imitated`, `Escape.undo_make_eq_self_iff`).

So a pass goes wrong exactly at letters between borders, its imitations
(`undo_escapeWith_concat_iff`), and no later pass makes up for it
(`restoreWith_escapeWith_append_iff`). A name is restored from its escape exactly if it holds no
imitation (`restore_escape_eq_self_iff`); the words of the escapes are imitations, and there are more.
-/

namespace Docstore.FieldName

/-- The underscores on either side of the letters of an escape. -/
def frame : List Char := ['_', '_']

/-- The letters of an escape. -/
def Escape.letters (e : Escape) : List Char := e.word.filter (· ≠ '_')

/-- What the passes rely on. Every word is some letters in a frame, no character is in a word, and the
letters of no escape are in the word of one before it. -/
structure Regular (es : List Escape) : Prop where
  framed : ∀ e ∈ es, e.word = frame ++ e.letters ++ frame
  lettered : ∀ e ∈ es, e.letters ≠ []
  plain : ∀ d ∈ es, ∀ e ∈ es, d.char ∉ e.word
  distinct : (es.map Escape.char).Nodup
  apart : es.Pairwise fun d e => ¬ e.letters <:+: d.word

theorem regular_escapes : Regular escapes where
  framed := by decide +kernel
  lettered := by decide +kernel
  plain := by decide +kernel
  distinct := by decide +kernel
  apart := by decide +kernel

theorem Escape.underscore_not_mem_letters (e : Escape) : '_' ∉ e.letters := by
  simp [letters]

/-- Every ending of a word has an underscore. -/
theorem Regular.underscore_mem {es : List Escape} (regular : Regular es) {e : Escape} (he : e ∈ es)
    {ending : List Char} (h : ending <:+ e.word) (some : ending ≠ []) : '_' ∈ ending := by
  have last : ['_'] <:+ e.word :=
    ⟨frame ++ e.letters ++ ['_'], by rw [regular.framed e he, List.append_assoc]; rfl⟩
  have short : ['_'].length ≤ ending.length := List.length_pos_iff.mpr some
  exact (List.suffix_of_suffix_length_le last h short).mem List.mem_cons_self

theorem Regular.sublist {ds es : List Escape} (regular : Regular es) (sub : ds.Sublist es) :
    Regular ds where
  framed e he := regular.framed e (sub.mem he)
  lettered e he := regular.lettered e (sub.mem he)
  plain d hd e he := regular.plain d (sub.mem hd) e (sub.mem he)
  distinct := regular.distinct.sublist (sub.map _)
  apart := regular.apart.sublist sub

/-! ## What is written for a character -/

section Written

variable {es : List Escape}

@[simp] theorem escapeWith_nil : escapeWith es [] = [] :=
  escapeWith_eq_flatMap es []

theorem escapeWith_cons (c : Char) (cs : List Char) :
    escapeWith es (c :: cs) = standsFor es c ++ escapeWith es cs := by
  rw [escapeWith_eq_flatMap, List.flatMap_cons, ← escapeWith_eq_flatMap]

theorem escapeWith_append (cs ds : List Char) :
    escapeWith es (cs ++ ds) = escapeWith es cs ++ escapeWith es ds := by
  rw [escapeWith_eq_flatMap, List.flatMap_append, ← escapeWith_eq_flatMap, ← escapeWith_eq_flatMap]

theorem escapeWith_concat (es : List Escape) (e : Escape) (cs : List Char) :
    escapeWith (es ++ [e]) cs = e.make (escapeWith es cs) :=
  List.foldl_append

theorem standsFor_char (regular : Regular es) {e : Escape} (he : e ∈ es) :
    standsFor es e.char = e.word := by
  induction es with
  | nil => cases he
  | cons d ds ih =>
    show escapeWith ds (d.make [e.char]) = e.word
    obtain ⟨other, -⟩ := List.nodup_cons.mp regular.distinct
    rcases List.mem_cons.mp he with rfl | hds
    · have word : e.make [e.char] = e.word := (e.make_cons_char []).trans (List.append_nil _)
      rw [word]
      exact escapeWith_of_not_mem fun d hd => regular.plain d (List.mem_cons_of_mem _ hd) e he
    · have kept : e.char ≠ d.char := fun same => other (same ▸ List.mem_map_of_mem hds)
      rw [Escape.make_cons_of_ne kept]
      exact ih (regular.sublist (List.sublist_cons_self d ds)) hds

/-- A word is written for the character of an escape, and every other character for itself. -/
theorem standsFor_cases (regular : Regular es) (c : Char) :
    (∃ e ∈ es, c = e.char ∧ standsFor es c = frame ++ e.letters ++ frame) ∨
      ((∀ e ∈ es, c ≠ e.char) ∧ standsFor es c = [c]) := by
  by_cases h : ∃ e ∈ es, c = e.char
  · obtain ⟨e, he, rfl⟩ := h
    exact .inl ⟨e, he, rfl, (standsFor_char regular he).trans (regular.framed e he)⟩
  · have other : ∀ e ∈ es, c ≠ e.char := fun e he same => h ⟨e, he, same⟩
    refine .inr ⟨other, escapeWith_of_not_mem fun e he => ?_⟩
    exact mt List.mem_singleton.mp (other e he).symm

/-- Letters at the front of what is written were there before. -/
theorem exists_of_escapeWith_eq_append (regular : Regular es) {p : List Char} (letters : '_' ∉ p)
    {cs rest : List Char} (h : escapeWith es cs = p ++ rest) :
    ∃ t, cs = p ++ t ∧ escapeWith es t = rest := by
  induction p generalizing cs with
  | nil => exact ⟨cs, rfl, h⟩
  | cons a p ih =>
    cases cs with
    | nil =>
      rw [escapeWith_nil] at h
      cases h
    | cons c cs =>
      rw [escapeWith_cons] at h
      rcases standsFor_cases regular c with ⟨e, -, -, word⟩ | ⟨-, kept⟩
      · rw [word] at h
        have first : '_' = a := (List.cons.inj h).1
        exact absurd (first ▸ List.mem_cons_self) letters
      · simp only [kept, List.cons_append, List.cons.injEq] at h
        obtain ⟨rfl, h⟩ := h
        obtain ⟨t, rfl, written⟩ := ih (List.not_mem_of_not_mem_cons letters) h
        exact ⟨t, rfl, written⟩

/-- Letters that are in no word do not begin inside what is written for a character. -/
theorem standsFor_prefix (regular : Regular es) {p : List Char} (letters : '_' ∉ p)
    (apart : ∀ e ∈ es, ¬ p <:+: e.word) {c : Char} {before after rest : List Char}
    (h : standsFor es c ++ rest = before ++ (p ++ after)) (later : before ≠ []) :
    standsFor es c <+: before := by
  rcases List.append_eq_append_iff.mp h with ⟨more, eq, -⟩ | ⟨inside, split_at, covers⟩
  · exact ⟨more, eq.symm⟩
  by_cases nothing : inside = []
  · have same : standsFor es c = before := by rw [split_at, nothing, List.append_nil]
    exact ⟨[], by rw [same, List.append_nil]⟩
  rcases standsFor_cases regular c with ⟨e, he, -, word⟩ | ⟨-, kept⟩
  · -- the ending of a word can neither hold the letters nor, with its underscore, begin them
    have ending : inside <:+ e.word := ⟨before, by rw [← split_at, word, regular.framed e he]⟩
    rcases List.append_eq_append_iff.mp covers with ⟨more, rfl, -⟩ | ⟨more, rfl, -⟩
    · exact absurd (((List.prefix_append p more).isInfix).trans ending.isInfix) (apart e he)
    · exact absurd (List.mem_append_left _ (regular.underscore_mem he ending nothing)) letters
  · have lengths := congrArg List.length (kept.symm.trans split_at)
    have := List.length_pos_iff.mpr later
    have := List.length_pos_iff.mpr nothing
    rw [List.length_append, List.length_singleton] at lengths
    omega

/-- Letters anywhere in what is written were there before, if they are in no word. -/
theorem exists_of_escapeWith_eq (regular : Regular es) {p : List Char} (lettered : p ≠ [])
    (letters : '_' ∉ p) (apart : ∀ e ∈ es, ¬ p <:+: e.word) {cs before after : List Char}
    (h : escapeWith es cs = before ++ (p ++ after)) :
    ∃ a b, cs = a ++ (p ++ b) ∧ escapeWith es a = before ∧ escapeWith es b = after := by
  induction cs generalizing before with
  | nil =>
    have none : [] = before ++ (p ++ after) := escapeWith_nil.symm.trans h
    simp [lettered] at none
  | cons c cs ih =>
    by_cases front : before = []
    · subst front
      obtain ⟨t, split_at, written⟩ := exists_of_escapeWith_eq_append regular letters h
      exact ⟨[], t, split_at, escapeWith_nil, written⟩
    rw [escapeWith_cons] at h
    obtain ⟨before', rfl⟩ := standsFor_prefix regular letters apart h front
    rw [List.append_assoc] at h
    obtain ⟨a, b, rfl, written_a, written_b⟩ := ih (List.append_cancel_left h)
    exact ⟨c :: a, b, rfl, by rw [escapeWith_cons, written_a], written_b⟩

/-! ## Borders -/

/-- What has to stand before letters for two underscores to be written there. -/
def leftBorders (es : List Escape) : List (List Char) :=
  frame :: es.flatMap fun e => [[e.char], [e.char, '_']]

/-- What has to stand after letters for two underscores to be written there. -/
def rightBorders (es : List Escape) : List (List Char) :=
  frame :: es.flatMap fun e => [[e.char], ['_', e.char]]

theorem mem_rightBorders_iff {r : List Char} :
    r ∈ rightBorders es ↔ r = frame ∨ ∃ e ∈ es, r = [e.char] ∨ r = ['_', e.char] := by
  simp [rightBorders]

theorem underscore_prefix_iff (regular : Regular es) {cs : List Char} :
    ['_'] <+: escapeWith es cs ↔ ['_'] <+: cs ∨ ∃ e ∈ es, [e.char] <+: cs := by
  cases cs with
  | nil => simp
  | cons c cs =>
    rw [escapeWith_cons]
    rcases standsFor_cases regular c with ⟨e, he, rfl, word⟩ | ⟨other, kept⟩
    · refine iff_of_true ?_ (.inr ⟨e, he, cs, rfl⟩)
      rw [word]
      exact List.prefix_append ['_'] _
    · have no_char : ¬ ∃ e ∈ es, [e.char] <+: c :: cs := fun ⟨e, he, front⟩ =>
        other e he (List.cons_prefix_cons.mp front).1.symm
      rw [kept, or_iff_left no_char]
      simp

/-- Two underscores are written where a right border stands. -/
theorem frame_prefix_iff (regular : Regular es) {cs : List Char} :
    frame <+: escapeWith es cs ↔ ∃ r ∈ rightBorders es, r <+: cs := by
  cases cs with
  | nil =>
    have never : ∀ r ∈ rightBorders es, r ≠ [] := by
      intro r hr
      rcases mem_rightBorders_iff.mp hr with rfl | ⟨e, -, rfl | rfl⟩
      · exact List.cons_ne_nil _ _
      · exact List.cons_ne_nil _ _
      · exact List.cons_ne_nil _ _
    refine iff_of_false (by simp [frame]) fun ⟨r, hr, front⟩ => ?_
    exact never r hr (List.prefix_nil.mp front)
  | cons c cs =>
    rw [escapeWith_cons]
    rcases standsFor_cases regular c with ⟨e, he, rfl, word⟩ | ⟨other, kept⟩
    · refine iff_of_true ?_ ⟨[e.char], mem_rightBorders_iff.mpr (.inr ⟨e, he, .inl rfl⟩), cs, rfl⟩
      rw [word, List.append_assoc, List.append_assoc]
      exact List.prefix_append _ _
    · rw [kept, List.singleton_append, frame, List.cons_prefix_cons, underscore_prefix_iff regular]
      constructor
      · rintro ⟨rfl, next | ⟨e, he, next⟩⟩
        · exact ⟨frame, mem_rightBorders_iff.mpr (.inl rfl), List.cons_prefix_cons.mpr ⟨rfl, next⟩⟩
        · exact ⟨['_', e.char], mem_rightBorders_iff.mpr (.inr ⟨e, he, .inr rfl⟩),
            List.cons_prefix_cons.mpr ⟨rfl, next⟩⟩
      · rintro ⟨r, hr, front⟩
        rcases mem_rightBorders_iff.mp hr with rfl | ⟨e, he, rfl | rfl⟩
        · obtain ⟨first, next⟩ := List.cons_prefix_cons.mp front
          exact ⟨first, .inl next⟩
        · exact absurd (List.cons_prefix_cons.mp front).1.symm (other e he)
        · obtain ⟨first, next⟩ := List.cons_prefix_cons.mp front
          exact ⟨first, .inr ⟨e, he, next⟩⟩

/-! ## The mirror image -/

/-- An escape with its word written backwards. -/
def Escape.mirror (e : Escape) : Escape := ⟨e.char, e.word.reverse⟩

theorem Escape.letters_mirror (e : Escape) : e.mirror.letters = e.letters.reverse :=
  List.filter_reverse

theorem Regular.mirror (regular : Regular es) : Regular (es.map Escape.mirror) where
  framed := by
    refine List.forall_mem_map.mpr fun e he => ?_
    rw [Escape.letters_mirror]
    show e.word.reverse = _
    rw [regular.framed e he]
    simp [frame]
  lettered := by
    refine List.forall_mem_map.mpr fun e he => ?_
    rw [Escape.letters_mirror]
    exact mt List.reverse_eq_nil_iff.mp (regular.lettered e he)
  plain := by
    refine List.forall_mem_map.mpr fun d hd => List.forall_mem_map.mpr fun e he => ?_
    exact mt List.mem_reverse.mp (regular.plain d hd e he)
  distinct := by
    rw [List.map_map]
    exact regular.distinct
  apart := by
    refine List.pairwise_map.mpr (regular.apart.imp fun {d e} apart => ?_)
    rw [Escape.letters_mirror]
    exact mt List.reverse_infix.mp apart

theorem Escape.make_mirror (e : Escape) (cs : List Char) :
    e.mirror.make cs.reverse = (e.make cs).reverse := by
  have each (c : Char) :
      substitute e.mirror.char e.mirror.word c = (substitute e.char e.word c).reverse := by
    by_cases h : c = e.char
    · simp [substitute, Escape.mirror, h]
    · simp [substitute, Escape.mirror, h]
  rw [Escape.make_eq_flatMap, Escape.make_eq_flatMap, List.reverse_flatMap]
  exact congrArg (cs.reverse.flatMap ·) (funext each)

theorem escapeWith_mirror (es : List Escape) (cs : List Char) :
    escapeWith (es.map Escape.mirror) cs.reverse = (escapeWith es cs).reverse := by
  induction es generalizing cs with
  | nil => rfl
  | cons e es ih =>
    show escapeWith (es.map Escape.mirror) (e.mirror.make cs.reverse) = _
    rw [Escape.make_mirror, ih]
    rfl

theorem rightBorders_mirror (es : List Escape) :
    rightBorders (es.map Escape.mirror) = (leftBorders es).map List.reverse := by
  simp [rightBorders, leftBorders, frame, List.flatMap_map, List.map_flatMap, Escape.mirror]

/-- Two underscores are written where a left border stands. -/
theorem frame_suffix_iff (regular : Regular es) {cs : List Char} :
    frame <:+ escapeWith es cs ↔ ∃ l ∈ leftBorders es, l <:+ cs := by
  rw [← List.reverse_prefix, ← escapeWith_mirror]
  show frame <+: _ ↔ _
  rw [frame_prefix_iff regular.mirror, rightBorders_mirror]
  constructor
  · rintro ⟨r, hr, front⟩
    obtain ⟨l, hl, rfl⟩ := List.mem_map.mp hr
    exact ⟨l, hl, List.reverse_prefix.mp front⟩
  · rintro ⟨l, hl, back⟩
    exact ⟨l.reverse, List.mem_map_of_mem hl, List.reverse_prefix.mpr back⟩

/-! ## One pass back -/

section Pass

variable {e : Escape}

theorem Escape.make_append (cs ds : List Char) : e.make (cs ++ ds) = e.make cs ++ e.make ds := by
  rw [make_eq_flatMap, List.flatMap_append, ← make_eq_flatMap, ← make_eq_flatMap]

theorem Escape.word_ne_nil (regular : Regular [e]) : e.word ≠ [] := by
  rw [regular.framed e List.mem_cons_self]
  exact List.cons_ne_nil _ _

/-- A word that begins at a character other than that of the escape is two underscores and the letters
as they stood, and then two underscores. -/
theorem Escape.word_prefix_make_iff (regular : Regular [e]) {c : Char} (other : c ≠ e.char)
    {cs : List Char} :
    e.word <+: e.make (c :: cs) ↔
      ∃ b, c :: cs = frame ++ (e.letters ++ b) ∧ frame <+: e.make b := by
  have framed := regular.framed e List.mem_cons_self
  constructor
  · rintro ⟨rest, found⟩
    have written : '_' :: '_' :: (e.letters ++ (frame ++ rest)) = c :: e.make cs := by
      rw [← make_cons_of_ne other, ← found, framed, List.append_assoc, List.append_assoc]
      rfl
    obtain ⟨rfl, next⟩ := List.cons.inj written
    cases cs with
    | nil => cases next
    | cons d cs =>
      by_cases same : d = e.char
      · -- a third underscore would be written, where the letters begin
        subst same
        rw [make_cons_char, framed] at next
        have next : e.letters ++ (frame ++ rest) = '_' :: (e.letters ++ frame ++ e.make cs) :=
          (List.cons.inj next).2
        obtain ⟨l, ls, letters⟩ := List.exists_cons_of_ne_nil (regular.lettered e List.mem_cons_self)
        rw [letters] at next
        have first : l = '_' := (List.cons.inj next).1
        refine absurd ?_ e.underscore_not_mem_letters
        rw [letters, first]
        exact List.mem_cons_self
      · rw [make_cons_of_ne same] at next
        obtain ⟨rfl, then_letters⟩ := List.cons.inj next
        obtain ⟨b, rfl, after⟩ :=
          exists_of_escapeWith_eq_append regular e.underscore_not_mem_letters then_letters.symm
        exact ⟨b, rfl, rest, after.symm⟩
  · rintro ⟨b, split_at, rest, after⟩
    have kept : e.make (frame ++ e.letters) = frame ++ e.letters := by
      refine make_of_not_mem fun there => ?_
      refine regular.plain e List.mem_cons_self e List.mem_cons_self ?_
      rw [framed]
      exact List.mem_append_left _ there
    refine ⟨rest, ?_⟩
    rw [split_at, ← List.append_assoc, make_append, kept, ← after, framed, List.append_assoc _ frame]

/-- Letters of an escape stand in a text after two underscores and are written before two more. -/
def Escape.Imitated (e : Escape) (m : List Char) : Prop :=
  ∃ a b, m = a ++ (e.letters ++ b) ∧ frame <:+ a ∧ frame <+: e.make b

theorem Escape.not_imitated_nil (e : Escape) : ¬ e.Imitated [] := by
  rintro ⟨a, b, at_end, border, -⟩
  obtain ⟨rfl, -⟩ := List.append_eq_nil_iff.mp at_end.symm
  exact List.cons_ne_nil _ _ (List.suffix_nil.mp border)

/-- Letters after a character are letters in what follows it, unless it is itself the first of the two
underscores. -/
theorem Escape.imitated_cons_iff {c : Char} {cs : List Char} :
    e.Imitated (c :: cs) ↔
      (∃ b, c :: cs = frame ++ (e.letters ++ b) ∧ frame <+: e.make b) ∨ e.Imitated cs := by
  constructor
  · rintro ⟨a, b, split_at, before, after⟩
    match a with
    | [] => exact absurd (List.suffix_nil.mp before) (List.cons_ne_nil _ _)
    | d :: a =>
      rcases List.suffix_cons_iff.mp before with same | before
      · exact .inl ⟨b, same ▸ split_at, after⟩
      · exact .inr ⟨a, b, (List.cons.inj split_at).2, before, after⟩
  · rintro (⟨b, split_at, after⟩ | ⟨a, b, rfl, before, after⟩)
    · exact ⟨frame, b, split_at, List.suffix_refl frame, after⟩
    · exact ⟨c :: a, b, rfl, before.trans (List.suffix_cons c a), after⟩

theorem Escape.imitated_cons_char_iff (regular : Regular [e]) {cs : List Char} :
    e.Imitated (e.char :: cs) ↔ e.Imitated cs := by
  refine imitated_cons_iff.trans (or_iff_right fun ⟨b, split_at, _⟩ => ?_)
  have underscore : e.char = '_' := (List.cons.inj split_at).1
  refine regular.plain e List.mem_cons_self e List.mem_cons_self ?_
  rw [regular.framed e List.mem_cons_self, underscore]
  exact List.mem_cons_self

theorem Escape.imitated_cons_iff_of_ne (regular : Regular [e]) {c : Char} (other : c ≠ e.char)
    {cs : List Char} :
    e.Imitated (c :: cs) ↔ e.word <+: e.make (c :: cs) ∨ e.Imitated cs := by
  rw [imitated_cons_iff, word_prefix_make_iff regular other]

/-- Undoing an escape gives back what it was made in, unless it was imitated there. -/
theorem Escape.undo_make_eq_self_iff (regular : Regular [e]) {m : List Char} :
    e.undo (e.make m) = m ↔ ¬ e.Imitated m := by
  have word := word_ne_nil regular
  have heads {c : Char} {cs ds : List Char} : c :: cs = c :: ds ↔ cs = ds :=
    ⟨fun h => (List.cons.inj h).2, congrArg (c :: ·)⟩
  induction m with
  | nil => exact iff_of_true rfl e.not_imitated_nil
  | cons c cs ih =>
    by_cases same : c = e.char
    · subst same
      rw [make_cons_char, undo, replaceAll_append word, imitated_cons_char_iff regular]
      exact heads.trans ih
    rw [imitated_cons_iff_of_ne regular same]
    by_cases front : e.word <+: e.make (c :: cs)
    · refine iff_of_false ?_ (not_not_intro (.inl front))
      obtain ⟨rest, found⟩ := front
      rw [← found, undo, replaceAll_append word]
      exact fun h => same (List.cons.inj h).1.symm
    · rw [or_iff_right front]
      rw [make_cons_of_ne same] at front ⊢
      rw [undo, replaceAll_cons front]
      exact heads.trans ih

end Pass

end Written

/-! ## All passes back -/

/-- The letters of an escape between two borders, as they are before its pass. -/
def imitationsOf (before : List Escape) (e : Escape) : List (List Char) :=
  (leftBorders before).flatMap fun l =>
    (rightBorders (before ++ [e])).map fun r => l ++ (e.letters ++ r)

/-- What the passes back mistake for a word of theirs, once escapes were made. -/
def imitationsAfter (before : List Escape) : List Escape → List (List Char)
  | [] => []
  | e :: es => imitationsOf before e ++ imitationsAfter (before ++ [e]) es

/-- What a name must not hold to be found again under its escape. -/
def imitations : List (List Char) := imitationsAfter [] escapes

section Back

variable {before : List Escape} {e : Escape} {cs : List Char}

theorem exists_imitation_iff :
    (∃ f ∈ imitationsOf before e, f <:+: cs) ↔
      ∃ a b, cs = a ++ (e.letters ++ b) ∧ (∃ l ∈ leftBorders before, l <:+ a) ∧
        ∃ r ∈ rightBorders (before ++ [e]), r <+: b := by
  constructor
  · rintro ⟨f, hf, s, t, rfl⟩
    obtain ⟨l, hl, hf⟩ := List.mem_flatMap.mp hf
    obtain ⟨r, hr, rfl⟩ := List.mem_map.mp hf
    refine ⟨s ++ l, r ++ t, ?_, ⟨l, hl, List.suffix_append s l⟩, r, hr, List.prefix_append r t⟩
    simp only [List.append_assoc]
  · rintro ⟨a, b, rfl, ⟨l, hl, s, rfl⟩, r, hr, t, rfl⟩
    refine ⟨l ++ (e.letters ++ r), ?_, s, t, by simp only [List.append_assoc]⟩
    exact List.mem_flatMap.mpr ⟨l, hl, List.mem_map_of_mem hr⟩

/-- One pass back gives what its pass was given, unless there was an imitation. -/
theorem undo_escapeWith_concat_iff (regular : Regular (before ++ [e])) :
    e.undo (escapeWith (before ++ [e]) cs) = escapeWith before cs ↔
      ∀ f ∈ imitationsOf before e, ¬ f <:+: cs := by
  have here : e ∈ before ++ [e] := List.mem_append_right _ List.mem_cons_self
  have earlier : Regular before := regular.sublist (List.sublist_append_left _ _)
  have last : Regular [e] := regular.sublist (List.sublist_append_right _ _)
  have letters_kept : escapeWith before e.letters = e.letters :=
    escapeWith_of_not_mem fun d hd there =>
      regular.plain d (List.mem_append_left _ hd) e here (List.mem_filter.mp there).1
  have letters_apart : ∀ d ∈ before, ¬ e.letters <:+: d.word := fun d hd =>
    (List.pairwise_append.mp regular.apart).2.2 d hd e List.mem_cons_self
  have imitated : (∃ f ∈ imitationsOf before e, f <:+: cs) ↔ e.Imitated (escapeWith before cs) := by
    rw [exists_imitation_iff]
    constructor
    · rintro ⟨a, b, rfl, left, right⟩
      refine ⟨escapeWith before a, escapeWith before b, ?_, (frame_suffix_iff earlier).mpr left, ?_⟩
      · rw [escapeWith_append, escapeWith_append, letters_kept]
      · rw [← escapeWith_concat]
        exact (frame_prefix_iff regular).mpr right
    · rintro ⟨a, b, written, left, right⟩
      obtain ⟨a, b, rfl, rfl, rfl⟩ := exists_of_escapeWith_eq earlier (regular.lettered e here)
        e.underscore_not_mem_letters letters_apart written
      rw [← escapeWith_concat] at right
      exact ⟨a, b, rfl, (frame_suffix_iff earlier).mp left, (frame_prefix_iff regular).mp right⟩
  rw [escapeWith_concat, Escape.undo_make_eq_self_iff last, ← imitated]
  simp

theorem char_not_mem_escapeWith {es : List Escape} (regular : Regular es) (he : e ∈ es) :
    e.char ∉ escapeWith es cs := by
  rw [escapeWith_eq_flatMap]
  intro there
  obtain ⟨c, -, there⟩ := List.mem_flatMap.mp there
  rcases standsFor_cases regular c with ⟨d, hd, -, word⟩ | ⟨other, kept⟩
  · rw [word, ← regular.framed d hd] at there
    exact regular.plain e he d hd there
  · rw [kept] at there
    exact other e he (List.mem_singleton.mp there).symm

/-- The passes back give what was given to theirs, unless there was an imitation. A pass back that
went wrong is not mended by those after it, since making the escape again would give back its text. -/
theorem restoreWith_escapeWith_append_iff {es : List Escape} (regular : Regular (before ++ es)) :
    restoreWith es (escapeWith (before ++ es) cs) = escapeWith before cs ↔
      ∀ f ∈ imitationsAfter before es, ¬ f <:+: cs := by
  induction es generalizing before with
  | nil => simp [imitationsAfter, restoreWith]
  | cons e es ih =>
    have all : before ++ e :: es = (before ++ [e]) ++ es := by simp
    have here : e ∈ before ++ e :: es := List.mem_append_right _ List.mem_cons_self
    have first : Regular (before ++ [e]) :=
      regular.sublist (all ▸ List.sublist_append_left (before ++ [e]) es)
    have others : Regular (e :: es) := regular.sublist (List.sublist_append_right before (e :: es))
    have words {d : Escape} (hd : d ∈ before ++ e :: es) : d.word ≠ [] :=
      Escape.word_ne_nil (regular.sublist (List.singleton_sublist.mpr hd))
    specialize ih (all ▸ regular)
    rw [← all] at ih
    have no_char : e.char ∉ restoreWith es (escapeWith (before ++ e :: es) cs) := fun there => by
      rcases mem_restoreWith (fun d hd => words (List.mem_append_right _ (List.mem_cons_of_mem _ hd)))
        there with there | there
      · exact (List.nodup_cons.mp others.distinct).1 there
      · exact char_not_mem_escapeWith regular here there
    rw [imitationsAfter, List.forall_mem_append, ← ih, ← undo_escapeWith_concat_iff first]
    show e.undo (restoreWith es (escapeWith (before ++ e :: es) cs)) = _ ↔ _
    constructor
    · intro h
      have rest :
          restoreWith es (escapeWith (before ++ e :: es) cs) = escapeWith (before ++ [e]) cs := by
        rw [← Escape.make_undo (words here) no_char, h, escapeWith_concat]
      exact ⟨by rw [← rest, h], rest⟩
    · rintro ⟨last, rest⟩
      rw [rest, last]

end Back

theorem restoreChars_escapeChars_eq_self_iff (cs : List Char) :
    restoreChars (escapeChars cs) = cs ↔ ∀ f ∈ imitations, ¬ f <:+: cs := by
  have passes : restoreWith escapes (escapeWith ([] ++ escapes) cs) = cs ↔
      ∀ f ∈ imitations, ¬ f <:+: cs :=
    restoreWith_escapeWith_append_iff regular_escapes
  exact passes

/-- A name that is found again under its escape. -/
def Recoverable (name : String) : Prop := restore (escape name) = name

instance (name : String) : Decidable (Recoverable name) :=
  inferInstanceAs (Decidable (restore (escape name) = name))

theorem recoverable_iff {name : String} :
    Recoverable name ↔ restoreChars (escapeChars name.toList) = name.toList := by
  rw [Recoverable, restore, escape, String.toList_ofList, ← String.toList_inj, String.toList_ofList]

/-- A name is restored from its escape exactly if the letters of no escape stand in it between two
underscores, or characters that underscores are written for, on either side. -/
theorem restore_escape_eq_self_iff (name : String) :
    restore (escape name) = name ↔ ∀ f ∈ imitations, ¬ f <:+: name.toList :=
  recoverable_iff.trans (restoreChars_escapeChars_eq_self_iff name.toList)

/-- To hold no word is not enough. -/
theorem not_forall_restore_escape :
    ¬ ∀ name : String, (∀ e ∈ escapes, ¬ e.word <:+: name.toList) → restore (escape name) = name := by
  intro h
  have no_word : ∀ e ∈ escapes, ¬ e.word <:+: "__dot.".toList := by decide +kernel
  exact absurd (h "__dot." no_word) (by decide +kernel)

example : ∀ e ∈ escapes, e.word ∈ imitations := by decide +kernel

end Docstore.FieldName
