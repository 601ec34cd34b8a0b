import Docstore.Entries

/-!
# Tables

A `Table α` gives values to names. It is a list of entries whose names strictly increase in the
order of their characters, so each name is there at most once, the order of listing is part of the
value, and two tables that give the same names the same values are equal (`Table.ext_get?`).
Documents, schemas and collections are tables.

Each operation has one law for each way a name can meet it: `get?_insert`, `get?_erase`,
`get?_filterMap`, `get?_overlay`.
-/

namespace Docstore

variable {α β : Type}

/-! ## Tables -/

/-- Values under names, listed in the order of the names. -/
structure Table (α : Type) where
  entries : Entries α
  sorted : (Entries.names entries).Pairwise (· < ·)

namespace Table

theorem eq_of_entries_eq {s t : Table α} (h : s.entries = t.entries) : s = t := by
  cases s; cases t; cases h; rfl

instance [DecidableEq α] : DecidableEq (Table α) := fun s t =>
  decidable_of_iff (s.entries = t.entries) ⟨eq_of_entries_eq, congrArg entries⟩

def empty : Table α := ⟨[], List.Pairwise.nil⟩

instance : Inhabited (Table α) := ⟨empty⟩

instance : EmptyCollection (Table α) := ⟨empty⟩

/-- The value under a name. -/
def get? (t : Table α) (name : String) : Option α := Entries.get? name t.entries

def contains (t : Table α) (name : String) : Bool := (t.get? name).isSome

/-- Gives a value to a name, which loses the one it had. -/
def insert (t : Table α) (name : String) (a : α) : Table α :=
  ⟨Entries.insert name a t.entries, Entries.pairwise_insert name a t.sorted⟩

/-- Takes the value from a name. -/
def erase (t : Table α) (name : String) : Table α :=
  ⟨Entries.erase name t.entries, Entries.pairwise_erase name t.sorted⟩

/-- The entries of a list put in one after another: the last of equal names counts. -/
def insertAll (t : Table α) (es : Entries α) : Table α :=
  es.foldl (fun t e => t.insert e.1 e.2) t

/-- The table of a list of entries, in which the last of equal names counts. -/
def ofList (es : Entries α) : Table α := empty.insertAll es

/-- One table over another: where both have a name, the upper one counts. -/
def overlay (lower upper : Table α) : Table α := lower.insertAll upper.entries

/-- Changes the value under each name. -/
def map (f : α → β) (t : Table α) : Table β :=
  ⟨t.entries.map fun e => (e.1, f e.2), by
    simpa [Entries.names, Function.comp_def] using t.sorted⟩

/-- Keeps the names for which `f` has a value, with that value. -/
def filterMap (f : α → Option β) (t : Table α) : Table β :=
  ⟨t.entries.filterMap fun e => (f e.2).map (e.1, ·), by
    refine t.sorted.sublist ?_
    induction t.entries with
    | nil => exact .slnil
    | cons e es ih =>
      cases h : f e.2 with
      | none => simpa [Entries.names, h] using ih.cons e.1
      | some b => simpa [Entries.names, h] using ih⟩

def size (t : Table α) : Nat := t.entries.length

def isEmpty (t : Table α) : Bool := t.entries.isEmpty

/-- The names that have a value, in order. -/
def keys (t : Table α) : List String := Entries.names t.entries

@[simp] theorem get?_empty (n : String) : (empty : Table α).get? n = none := rfl

@[grind =] theorem get?_insert (t : Table α) (name n : String) (a : α) :
    (t.insert name a).get? n = if n = name then some a else t.get? n :=
  Entries.get?_insert name n a t.entries

@[grind =] theorem get?_erase (t : Table α) (name n : String) :
    (t.erase name).get? n = if n = name then none else t.get? n :=
  Entries.get?_erase name n t.sorted

theorem mem_entries_iff {t : Table α} {n : String} {a : α} :
    (n, a) ∈ t.entries ↔ t.get? n = some a :=
  Entries.mem_iff_get? t.sorted

/-- What holds of every entry holds of whatever a name has. -/
theorem forall_mem_entries_iff (P : String → α → Prop) {t : Table α} :
    (∀ e ∈ t.entries, P e.1 e.2) ↔ ∀ n a, t.get? n = some a → P n a :=
  ⟨fun each n a found => each (n, a) (mem_entries_iff.mpr found),
    fun each e listed => each e.1 e.2 (mem_entries_iff.mp listed)⟩

/-- The names before an entry are less than its own, and the names after it are greater. -/
theorem lt_of_entries_eq {t : Table α} {before after : Entries α} {e : String × α}
    (split_at : t.entries = before ++ e :: after) :
    (∀ b ∈ before, b.1 < e.1) ∧ ∀ a ∈ after, e.1 < a.1 := by
  have sorted := t.sorted
  rw [split_at, Entries.names, List.map_append, List.map_cons] at sorted
  obtain ⟨-, from_entry, across⟩ := List.pairwise_append.mp sorted
  constructor
  · intro b early
    exact across b.1 (List.mem_map_of_mem early) e.1 List.mem_cons_self
  · intro a late
    exact (List.pairwise_cons.mp from_entry).1 a.1 (List.mem_map_of_mem late)

theorem mem_keys_iff {t : Table α} {n : String} : n ∈ t.keys ↔ t.contains n = true := by
  have h := @Entries.get?_eq_none_iff α n t.entries
  unfold contains get? keys
  cases hf : Entries.get? n t.entries <;> simp [hf] at h ⊢ <;> simpa using h

theorem contains_ofList_singleton {name n : String} {a : α} :
    (ofList [(name, a)]).contains n = true ↔ n = name := by
  simp [contains, ofList, insertAll, get?_insert]

/-- A table is known by what it gives to each name. -/
theorem ext_get? {s t : Table α} (h : ∀ n, s.get? n = t.get? n) : s = t :=
  eq_of_entries_eq (Entries.eq_of_get?_eq s.sorted t.sorted h)

/-- After a list of entries is put in, a name has the last value the list gives it, else the one it
had. -/
theorem get?_insertAll (t : Table α) (es : Entries α) (n : String) :
    (t.insertAll es).get? n = (Entries.get? n es.reverse).or (t.get? n) := by
  induction es generalizing t with
  | nil => simp [insertAll, Entries.get?]
  | cons e es ih =>
    have step : t.insertAll (e :: es) = (t.insert e.1 e.2).insertAll es := rfl
    rw [step, ih, get?_insert, List.reverse_cons, Entries.get?_append]
    cases Entries.get? n es.reverse <;> by_cases h : n = e.1 <;> simp [h, Entries.get?]

/-- Where there is a value, it is kept if `f` has one for it. -/
theorem get?_filterMap (f : α → Option β) (t : Table α) (n : String) :
    (t.filterMap f).get? n = (t.get? n).bind f := by
  refine Option.ext fun b => ?_
  rw [Option.bind_eq_some_iff, ← mem_entries_iff, filterMap, List.mem_filterMap]
  constructor
  · rintro ⟨⟨m, a⟩, listed, h⟩
    obtain ⟨c, kept, same⟩ := Option.map_eq_some_iff.mp h
    cases same
    exact ⟨a, mem_entries_iff.mp listed, kept⟩
  · rintro ⟨a, found, kept⟩
    exact ⟨(n, a), mem_entries_iff.mpr found, Option.map_eq_some_iff.mpr ⟨b, kept, rfl⟩⟩

/-- One table over another gives a name what the upper one does, else what the lower one does. -/
@[grind =] theorem get?_overlay (lower upper : Table α) (n : String) :
    (lower.overlay upper).get? n = (upper.get? n).or (lower.get? n) := by
  rw [overlay, get?_insertAll, Entries.get?_reverse upper.sorted]
  rfl

end Table

end Docstore
