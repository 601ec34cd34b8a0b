import Docstore.Proofs.Bson.Separation
import Docstore.Proofs.Result
import Docstore.Proofs.Time.Instant

/-!
# Stored documents read back

A document that was stored reads back as it was, up to what BSON does not keep. Three facts come
together in `StoredDocument.ofBson_toBson_of_wordless`.

* A value reads back with its dates at whole milliseconds (`Value.ofBson_toBson`), if none of them is
  in a leap second.
* A name without the letters of an escape is found again (`FieldName.recoverable_of_wordless`), since
  every imitation has such letters.
* The member for the identifier takes the place of the field that is stored under its name, which is
  the field of that very name (`FieldName.Recoverable.escape_eq_storedIdKey_iff`), and the members of
  all other fields stay as they were put (`Entries.filter_put`).
-/

namespace Docstore

/-! ## Values -/

namespace Value

/-- No date, at any depth, is in a leap second. -/
inductive LeapFree : Value → Prop
  | null : LeapFree .null
  | boolean (b : Bool) : LeapFree (.boolean b)
  | number (x : Binary64) : LeapFree (.number x)
  | date {t : Instant} (h : t.isLeap = false) : LeapFree (.date t)
  | string (s : String) : LeapFree (.string s)
  | array {items : List Value} (h : ∀ v ∈ items, LeapFree v) : LeapFree (.array items)

mutual

/-- A value with its dates, at every depth, at the start of their milliseconds. -/
def floorDates : Value → Value
  | .date t => .date t.floorMillis
  | .array items => .array (floorItemDates items)
  | .null => .null
  | .boolean b => .boolean b
  | .number x => .number x
  | .string s => .string s

/-- The items of an array with their dates at the start of their milliseconds. -/
def floorItemDates : List Value → List Value
  | [] => []
  | v :: vs => v.floorDates :: floorItemDates vs

end

theorem itemsOfBson_itemsToBson {items : List Value}
    (each : ∀ v ∈ items, ofBson v.toBson = .ok v.floorDates) :
    itemsOfBson (itemsToBson items) = .ok (floorItemDates items) := by
  induction items with
  | nil => rfl
  | cons v items ih =>
    obtain ⟨first, rest⟩ := List.forall_mem_cons.mp each
    rw [itemsToBson, itemsOfBson, first, ih rest]
    rfl

/-- A value that was stored reads back with its dates at whole milliseconds. -/
theorem ofBson_toBson {v : Value} (h : v.LeapFree) : ofBson v.toBson = .ok v.floorDates := by
  induction h with
  | null => rfl
  | boolean b => rfl
  | number x => rfl
  | date h => exact congrArg (Except.ok ∘ Value.date) (Instant.ofMillis_millis h)
  | string s => rfl
  | array _ each =>
    rw [toBson, ofBson, itemsOfBson_itemsToBson each]
    rfl

end Value

/-! ## Names -/

namespace FieldName

/-- A name without the letters of an escape. -/
def Wordless (name : String) : Prop :=
  ∀ word ∈ ["dot", "dollar", "null"], ¬ word.toList <:+: name.toList

instance (name : String) : Decidable (Wordless name) :=
  inferInstanceAs (Decidable (∀ word ∈ ["dot", "dollar", "null"], ¬ word.toList <:+: name.toList))

theorem letters_escapes : escapes.map Escape.letters = ["dot", "dollar", "null"].map String.toList := by
  decide +kernel

theorem letters_infix_of_mem_imitationsAfter {before es : List Escape} {f : List Char}
    (h : f ∈ imitationsAfter before es) : ∃ e ∈ es, e.letters <:+: f := by
  induction es generalizing before with
  | nil => cases h
  | cons e es ih =>
    rcases List.mem_append.mp h with h | h
    · obtain ⟨l, -, h⟩ := List.mem_flatMap.mp h
      obtain ⟨r, -, rfl⟩ := List.mem_map.mp h
      exact ⟨e, List.mem_cons_self, l, r, List.append_assoc _ _ _⟩
    · obtain ⟨d, hd, letters⟩ := ih h
      exact ⟨d, List.mem_cons_of_mem _ hd, letters⟩

theorem recoverable_of_wordless {name : String} (h : Wordless name) : Recoverable name := by
  refine recoverable_iff.mpr ((restoreChars_escapeChars_eq_self_iff name.toList).mpr ?_)
  intro f hf there
  obtain ⟨e, he, letters⟩ := letters_infix_of_mem_imitationsAfter hf
  have listed : e.letters ∈ ["dot", "dollar", "null"].map String.toList :=
    letters_escapes ▸ List.mem_map_of_mem he
  obtain ⟨word, hword, eq⟩ := List.mem_map.mp listed
  exact h word hword (eq ▸ letters.trans there)

/-- Only the name of the identifier is stored under it, of the names that are found again. -/
theorem Recoverable.escape_eq_storedIdKey_iff {name : String} (h : Recoverable name) :
    escape name = storedIdKey ↔ name = storedIdKey := by
  have itself : escape storedIdKey = storedIdKey := escape_of_storable (by decide)
  have again : Recoverable storedIdKey := by decide
  constructor
  · intro same
    exact h.eq_of_escape_eq again (same.trans itself.symm)
  · rintro rfl
    exact itself

end FieldName

/-! ## Members -/

namespace Entries

variable {α : Type}

/-- Putting an entry changes no other. -/
theorem filter_put (name : String) (a : α) (es : Entries α) :
    (put name a es).filter (fun e => e.1 != name) = es.filter fun e => e.1 != name := by
  induction es with
  | nil => simp [put]
  | cons e es ih =>
    rw [put]
    split
    · next same => simp [same]
    · next other => rw [List.filter_cons, List.filter_cons, ih]

theorem get?_filter (name n : String) (es : Entries α) :
    get? n (es.filter fun e => e.1 != name) = if n = name then none else get? n es := by
  induction es with
  | nil => simp [get?]
  | cons e es ih => grind [get?]

end Entries

namespace Document

/-- Stored fields read back, one after another, under the names that are restored from theirs. -/
theorem readBsonMembers_map {es : Entries Value} (values : ∀ e ∈ es, e.2.LeapFree) (d : Document) :
    readBsonMembers (es.map fun e => (FieldName.escape e.1, e.2.toBson)) d =
      .ok (d.insertAll
        (es.map fun e => (FieldName.restore (FieldName.escape e.1), e.2.floorDates))) := by
  induction es generalizing d with
  | nil => rfl
  | cons e es ih =>
    obtain ⟨first, rest⟩ := List.forall_mem_cons.mp values
    rw [List.map_cons, readBsonMembers, Value.ofBson_toBson first, ok_bind, ih rest]
    rfl

/-- The fields of a document with their dates at whole milliseconds, but for one name. -/
theorem ofList_filter_eq_erase (d : Document) (name : String) :
    Table.ofList ((d.entries.filter fun e => e.1 != name).map fun e => (e.1, e.2.floorDates)) =
      (d.map Value.floorDates).erase name := by
  refine Table.ext_get? fun n => ?_
  have sorted : (Entries.names ((d.entries.filter fun e => e.1 != name).map fun e =>
      (e.1, e.2.floorDates))).Pairwise (· < ·) := by
    have kept : (d.entries.filter fun e => e.1 != name).Sublist d.entries := List.filter_sublist
    simpa [Entries.names, Function.comp_def] using d.sorted.sublist (kept.map Prod.fst)
  rw [Table.ofList, Table.get?_insertAll, Entries.get?_reverse sorted, Table.get?_empty, Option.or_none,
    Entries.get?_map, Entries.get?_filter, Table.get?_erase]
  split
  · rfl
  · exact (Entries.get?_map Value.floorDates d.entries n).symm

end Document

namespace StoredDocument

open FieldName (Recoverable Wordless)

/-- Of the members of a stored document, the fields but for the one of the identifier's name. -/
theorem filter_toBson {id : String} {d : Document} (names : ∀ n ∈ d.keys, Recoverable n) :
    ((StoredDocument.toBson ⟨id, d⟩).filter fun m => m.1 != storedIdKey) =
      (d.entries.filter fun e => e.1 != storedIdKey).map fun e =>
        (FieldName.escape e.1, e.2.toBson) := by
  have distinct : (Entries.names (d.entries.map fun e =>
      (FieldName.escape e.1, e.2.toBson))).Nodup := by
    rw [Document.names_escaped_entries]
    exact Document.nodup_escaped_keys names
  have same_name : ∀ e ∈ d.entries,
      (FieldName.escape e.1 != storedIdKey) = (e.1 != storedIdKey) := by
    intro e he
    have h := (names e.1 (List.mem_map_of_mem he)).escape_eq_storedIdKey_iff
    rw [Bool.eq_iff_iff, bne_iff_ne, bne_iff_ne]
    exact not_congr h
  rw [StoredDocument.toBson, Entries.filter_put, Document.toBson, Entries.putAll_eq_self distinct,
    List.filter_map]
  exact congrArg _ (List.filter_congr same_name)

theorem get?_toBson_storedIdKey (d : StoredDocument) :
    Entries.get? storedIdKey d.toBson = some (.string d.id) := by
  rw [StoredDocument.toBson, Entries.get?_put, if_pos rfl]

/-- The fields of a stored document read back, if their names are found again. -/
theorem fields_ofBson_toBson {id : String} {d : Document} (names : ∀ n ∈ d.keys, Recoverable n)
    (dates : ∀ n v, d.get? n = some v → v.LeapFree) :
    Document.ofBson [storedIdKey] (StoredDocument.toBson ⟨id, d⟩) =
      .ok ((d.map Value.floorDates).erase storedIdKey) := by
  have values : ∀ e ∈ d.entries.filter fun e => e.1 != storedIdKey, e.2.LeapFree := fun e he =>
    dates e.1 e.2 (Table.mem_entries_iff.mp (List.mem_filter.mp he).1)
  have restored : ((d.entries.filter fun e => e.1 != storedIdKey).map fun e =>
      (FieldName.restore (FieldName.escape e.1), e.2.floorDates)) =
        (d.entries.filter fun e => e.1 != storedIdKey).map fun e => (e.1, e.2.floorDates) := by
    refine List.map_congr_left fun e he => congrArg (·, e.2.floorDates) ?_
    exact names e.1 (List.mem_map_of_mem (List.mem_filter.mp he).1)
  have skipped (m : String × Bson) : (!List.contains [storedIdKey] m.1) = (m.1 != storedIdKey) := by
    rw [List.contains_cons, List.contains_nil, Bool.or_false]
    rfl
  calc
    Document.ofBson [storedIdKey] (StoredDocument.toBson ⟨id, d⟩)
      = Document.readBsonMembers
          ((StoredDocument.toBson ⟨id, d⟩).filter fun m => m.1 != storedIdKey) ∅ := by
        simp only [Document.ofBson, skipped]
    _ = .ok (Table.ofList ((d.entries.filter fun e => e.1 != storedIdKey).map fun e =>
          (e.1, e.2.floorDates))) := by
        rw [filter_toBson names, Document.readBsonMembers_map values, restored]
        rfl
    _ = .ok ((d.map Value.floorDates).erase storedIdKey) := by
        rw [Document.ofList_filter_eq_erase]

/-- A stored document reads back with its identifier and its fields, their dates at whole milliseconds,
but for a field of the identifier's name. -/
theorem ofBson_toBson_of_wordless (id : String) (d : Document) (names : ∀ n ∈ d.keys, Wordless n)
    (dates : ∀ n v, d.get? n = some v → v.LeapFree) :
    StoredDocument.ofBson (StoredDocument.toBson ⟨id, d⟩) =
      .ok ⟨id, (d.map Value.floorDates).erase storedIdKey⟩ := by
  have recoverable : ∀ n ∈ d.keys, Recoverable n := fun n hn =>
    FieldName.recoverable_of_wordless (names n hn)
  rw [StoredDocument.ofBson, get?_toBson_storedIdKey, fields_ofBson_toBson recoverable dates]
  rfl

/-- A nanosecond before 1970. -/
def lastMoment : Instant := ⟨-1, 999999999, Instant.last.nanos_lt, by decide, by decide, by decide⟩

/-- A document with underscores beside characters that have escapes, and a field of the identifier's
name. -/
def framedDocument : Document :=
  .ofList [("__.$_", .array [.null, .array [.date lastMoment]]), ("_id", .boolean true),
    ("\x00__", .number (.zero true))]

theorem ofBson_toBson_framedDocument :
    StoredDocument.ofBson (StoredDocument.toBson ⟨"p1", framedDocument⟩) =
      .ok ⟨"p1", .ofList [("__.$_", .array [.null, .array [.date lastMoment.floorMillis]]),
        ("\x00__", .number (.zero true))]⟩ := by
  have names : ∀ n ∈ framedDocument.keys, Wordless n := by decide +kernel
  have dates : ∀ n v, framedDocument.get? n = some v → v.LeapFree := by
    intro n v found
    have listed : (n, v) ∈ framedDocument.entries := Table.mem_entries_iff.mpr found
    rcases listed with _ | ⟨_, _ | ⟨_, _ | ⟨_, listed⟩⟩⟩
    · exact .number _
    · refine .array (List.forall_mem_cons.mpr ⟨.null, List.forall_mem_singleton.mpr ?_⟩)
      exact .array (List.forall_mem_singleton.mpr (.date rfl))
    · exact .boolean true
    · cases listed
  rw [ofBson_toBson_of_wordless "p1" framedDocument names dates]
  rfl

end StoredDocument

end Docstore
