/-!
# Entries

Values under names, listed one after another: the members of an object, the fields of a document.
A list of entries grows in one of two ways. `Entries.insert` keeps it in the order of the names, so
that the list is known by what it gives to each name (`Entries.eq_of_get?_eq`). `Entries.put` keeps
it in the order in which the names first came.
-/

namespace Docstore

/-- Values under names. -/
abbrev Entries (α : Type) := List (String × α)

namespace Entries

variable {α : Type}

/-- The names of a list of entries. -/
abbrev names (es : Entries α) : List String := es.map Prod.fst

/-- Puts an entry in its place, instead of one that has its name. -/
def insert (name : String) (a : α) : Entries α → Entries α
  | [] => [(name, a)]
  | e :: es =>
    if name < e.1 then (name, a) :: e :: es
    else if name = e.1 then (name, a) :: es
    else e :: insert name a es

/-- Takes out the entry with a name, if there is one. -/
def erase (name : String) : Entries α → Entries α
  | [] => []
  | e :: es => if name = e.1 then es else e :: erase name es

/-- The value of the first entry with a name. -/
def get? (name : String) : Entries α → Option α
  | [] => none
  | e :: es => if name = e.1 then some e.2 else get? name es

theorem mem_names_insert {name n : String} {a : α} {es : Entries α} :
    n ∈ names (insert name a es) ↔ n = name ∨ n ∈ names es := by
  induction es with
  | nil => simp [insert]
  | cons e es ih => grind [insert]

theorem mem_names_of_mem_erase {name n : String} {es : Entries α}
    (h : n ∈ names (erase name es)) : n ∈ names es := by
  induction es with
  | nil => simp [erase] at h
  | cons e es ih => grind [erase]

theorem pairwise_insert (name : String) (a : α) {es : Entries α}
    (h : (names es).Pairwise (· < ·)) : (names (insert name a es)).Pairwise (· < ·) := by
  induction es with
  | nil => simp [insert]
  | cons e es ih =>
    obtain ⟨head, tail⟩ := List.pairwise_cons.mp h
    simp only [insert]
    split
    · rename_i lt
      refine List.pairwise_cons.mpr ⟨fun n hn => ?_, h⟩
      rcases List.mem_cons.mp hn with rfl | hn
      · exact lt
      · exact String.lt_trans lt (head n hn)
    · split
      · rename_i eq
        exact List.pairwise_cons.mpr ⟨fun n hn => eq ▸ head n hn, tail⟩
      · rename_i nlt ne
        refine List.pairwise_cons.mpr ⟨fun n hn => ?_, ih tail⟩
        rcases mem_names_insert.mp hn with rfl | hn
        · exact Std.lt_of_le_of_ne (String.not_lt.mp nlt) (Ne.symm ne)
        · exact head n hn

theorem pairwise_erase (name : String) {es : Entries α}
    (h : (names es).Pairwise (· < ·)) : (names (erase name es)).Pairwise (· < ·) := by
  induction es with
  | nil => simp [erase]
  | cons e es ih =>
    obtain ⟨head, tail⟩ := List.pairwise_cons.mp h
    simp only [erase]
    split
    · exact tail
    · exact List.pairwise_cons.mpr ⟨fun n hn => head n (mem_names_of_mem_erase hn), ih tail⟩

theorem get?_insert (name n : String) (a : α) (es : Entries α) :
    get? n (insert name a es) = if n = name then some a else get? n es := by
  induction es with
  | nil => simp [insert, get?]
  | cons e es ih => grind [insert, get?]

theorem get?_eq_none_iff {n : String} {es : Entries α} :
    get? n es = none ↔ n ∉ names es := by
  induction es with
  | nil => simp [get?]
  | cons e es ih => grind [get?]

/-- In the order of their names, the first name does not come again. -/
theorem not_mem_names_of_pairwise {e : String × α} {es : Entries α}
    (h : (names (e :: es)).Pairwise (· < ·)) : e.1 ∉ names es :=
  fun hn => String.lt_irrefl e.1 ((List.pairwise_cons.mp h).1 e.1 hn)

theorem get?_erase (name n : String) {es : Entries α}
    (h : (names es).Pairwise (· < ·)) :
    get? n (erase name es) = if n = name then none else get? n es := by
  induction es with
  | nil => simp [erase, get?]
  | cons e es ih =>
    have tail := (List.pairwise_cons.mp h).2
    simp only [erase]
    split
    · rename_i eq
      split
      · rename_i eq'
        rw [eq', eq]
        exact get?_eq_none_iff.mpr (not_mem_names_of_pairwise h)
      · rename_i ne
        simp [get?, ← eq, ne]
    · rw [get?, ih tail, get?]
      grind

theorem mem_iff_get? {n : String} {a : α} {es : Entries α}
    (h : (names es).Pairwise (· < ·)) : (n, a) ∈ es ↔ get? n es = some a := by
  induction es with
  | nil => simp [get?]
  | cons e es ih =>
    rw [List.mem_cons, ih (List.pairwise_cons.mp h).2, get?]
    split
    · rename_i eq
      rw [get?_eq_none_iff.mpr (eq ▸ not_mem_names_of_pairwise h)]
      cases e; cases eq; simp [eq_comm]
    · rename_i ne
      refine ⟨fun h => h.resolve_left fun h => ne (by rw [← h]), .inr⟩

/-- Entries in the order of their names are known by what they give to each name. -/
theorem eq_of_get?_eq {es fs : Entries α}
    (he : (names es).Pairwise (· < ·)) (hf : (names fs).Pairwise (· < ·))
    (h : ∀ n, get? n es = get? n fs) : es = fs := by
  induction es generalizing fs with
  | nil =>
    cases fs with
    | nil => rfl
    | cons f fs => simpa [get?] using h f.1
  | cons e es ih =>
    cases fs with
    | nil => simpa [get?] using h e.1
    | cons f fs =>
      obtain ⟨heads, tails⟩ := List.pairwise_cons.mp he
      obtain ⟨headf, tailf⟩ := List.pairwise_cons.mp hf
      have he1 : e.1 = f.1 := by
        have h1 := h e.1
        have h2 := h f.1
        simp only [get?, if_true] at h1 h2
        by_cases heq : e.1 = f.1
        · exact heq
        · rw [if_neg heq] at h1
          rw [if_neg (Ne.symm heq)] at h2
          have m1 : e.1 ∈ names fs := by
            apply Decidable.not_not.mp
            intro hn
            rw [get?_eq_none_iff.mpr hn] at h1
            cases h1
          have m2 : f.1 ∈ names es := by
            apply Decidable.not_not.mp
            intro hn
            rw [get?_eq_none_iff.mpr hn] at h2
            cases h2
          exact absurd (heads _ m2) (String.lt_asymm (headf _ m1))
      have he2 : e.2 = f.2 := by simpa [get?, he1] using h e.1
      have htail : es = fs := by
        refine ih tails tailf fun n => ?_
        by_cases hn : n = e.1
        · rw [get?_eq_none_iff.mpr (hn ▸ not_mem_names_of_pairwise he),
            get?_eq_none_iff.mpr (hn ▸ he1 ▸ not_mem_names_of_pairwise hf)]
        · have := h n
          rwa [get?, if_neg hn, get?, if_neg (he1 ▸ hn)] at this
      rw [htail, Prod.ext he1 he2]

/-- A name with one value in a list has that value as its first. -/
theorem get?_eq_some_of_unique {n : String} {a : α} {es : Entries α}
    (h : (n, a) ∈ es) (unique : ∀ b, (n, b) ∈ es → b = a) : get? n es = some a := by
  induction es with
  | nil => cases h
  | cons e es ih =>
    rw [get?]
    split
    · rename_i eq
      exact congrArg some (unique e.2 (by rw [eq]; exact List.mem_cons_self))
    · rename_i ne
      exact ih ((List.mem_cons.mp h).resolve_left fun h => ne (by rw [← h]))
        fun b hb => unique b (List.mem_cons_of_mem _ hb)

/-- Entries in the order of their names may be searched from either end. -/
theorem get?_reverse {n : String} {es : Entries α}
    (h : (names es).Pairwise (· < ·)) : get? n es.reverse = get? n es := by
  cases hn : get? n es with
  | none =>
    rw [get?_eq_none_iff] at hn ⊢
    simpa [names] using hn
  | some a =>
    refine get?_eq_some_of_unique (List.mem_reverse.mpr ((mem_iff_get? h).mpr hn)) ?_
    intro b hb
    have := (mem_iff_get? h).mp (List.mem_reverse.mp hb)
    exact Option.some.inj (this.symm.trans hn)

theorem get?_append {n : String} {es fs : Entries α} :
    get? n (es ++ fs) = (get? n es).or (get? n fs) := by
  induction es with
  | nil => simp [get?]
  | cons e es ih => by_cases h : n = e.1 <;> simp [get?, h, ← ih]

/-! ## The order of first coming -/

/-- Puts an entry at the end, or in the place of the one with its name. -/
def put (name : String) (a : α) : Entries α → Entries α
  | [] => [(name, a)]
  | e :: es => if name = e.1 then (name, a) :: es else e :: put name a es

/-- A list of entries put one after another: a name that comes again keeps its place and takes the new
value. -/
def putAll (es : Entries α) : Entries α := es.foldl (fun fs e => put e.1 e.2 fs) []

theorem get?_put (es : Entries α) (name n : String) (a : α) :
    get? n (put name a es) = if n = name then some a else get? n es := by
  induction es with
  | nil => simp [put, get?]
  | cons e es ih => grind [put, get?]

end Entries

end Docstore
