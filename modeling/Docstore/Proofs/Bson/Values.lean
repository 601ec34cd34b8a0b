import Docstore.Proofs.Bson.RoundTrip
import Docstore.Proofs.Time.Rfc3339
import Docstore.Value.Json

/-!
# What BSON keeps of a value

A BSON value is read if it is made, at every depth of its arrays, of the kinds that values have
(`Value.exists_ofBson_iff`). The integers are among them, which no value is written as.

A value that is written in BSON and read again is the value with its dates at the start of their
milliseconds, just if none of them is in a leap second (`Value.ofBson_toBson_eq_ok_iff`): a count of
milliseconds has no place for one. JSON shows no more of a date than its millisecond, counted in the
same direction before 1970 as after, so what was read is written in JSON as the value was
(`Value.toJson_floorDates`). A store that keeps documents as they are and one that keeps them in BSON
give the same JSON (`StoredDocument.bson_keeps_json`).
-/

namespace Docstore

/-- A BSON value is made, at every depth, of the kinds that values have. -/
inductive Bson.Readable : Bson → Prop
  | null : Readable .null
  | boolean (b : Bool) : Readable (.boolean b)
  | int32 (n : Int32) : Readable (.int32 n)
  | int64 (n : Int64) : Readable (.int64 n)
  | double (x : Binary64) : Readable (.double x)
  | string (s : String) : Readable (.string s)
  | date (millis : Int) : Readable (.date millis)
  | array {items : List Bson} (h : ∀ b ∈ items, Readable b) : Readable (.array items)

/-- Induction on BSON values by their arrays: the items come before the array. -/
@[elab_as_elim]
theorem Bson.array_induction {motive : Bson → Prop}
    (array : ∀ items, (∀ b ∈ items, motive b) → motive (.array items))
    (other : ∀ b, (∀ items, b ≠ .array items) → motive b) : ∀ b, motive b
  | .array items => array items fun b _ => array_induction array other b
  | .null | .boolean _ | .int32 _ | .int64 _ | .double _ | .string _ | .date _ | .document _
  | .objectId _ | .binary _ _ | .decimal128 _ | .regularExpression _ _ | .javaScript _
  | .javaScriptWithScope _ _ | .symbol _ | .dbPointer _ _ | .undefined | .minKey | .maxKey
  | .timestamp _ _ => other _ nofun

namespace Instant

/-- Milliseconds are counted towards the past, also before 1970. -/
theorem millis_eq_floor (t : Instant) : t.millis = (t.seconds * 1000000000 + t.nanos) / 1000000 := by
  unfold millis
  omega

theorem ofMillis_of_no_parts {n : Int}
    (missing : ofParts? (n / 1000) ((n % 1000).toNat * 1000000) = none) :
    ofMillis n = first ∨ ofMillis n = last := by
  -- Opened as a function, as it is in `ofMillis_of_parts`.
  suffices opened : ∀ f, f = ofMillis → f n = first ∨ f n = last from opened _ rfl
  delta ofMillis
  rintro _ rfl
  simp only [missing]
  split
  · exact .inl rfl
  · exact .inr rfl

/-- No count of milliseconds is in a leap second. -/
theorem isLeap_ofMillis (n : Int) : (ofMillis n).isLeap = false := by
  cases found : ofParts? (n / 1000) ((n % 1000).toNat * 1000000) with
  | some t =>
    rw [ofMillis_of_parts found]
    obtain ⟨_, made⟩ := Option.dite_none_right_eq_some.mp found
    have nanos : (n % 1000).toNat * 1000000 = t.nanos := congrArg Instant.nanos (Option.some.inj made)
    exact decide_eq_false (by omega)
  | none =>
    rcases ofMillis_of_no_parts found with h | h
    · rw [h]
      rfl
    · rw [h]
      rfl

theorem ofMillis_millis_iff {t : Instant} :
    ofMillis t.millis = t.floorMillis ↔ t.isLeap = false := by
  constructor
  · intro same
    rw [← t.isLeap_floorMillis, ← same]
    exact isLeap_ofMillis t.millis
  · exact ofMillis_millis

end Instant

namespace Value

/-! ## What is read -/

theorem exists_itemsOfBson_iff {items : List Bson} :
    (∃ vs, itemsOfBson items = .ok vs) ↔ ∀ b ∈ items, ∃ v, ofBson b = .ok v := by
  induction items with
  | nil => exact iff_of_true ⟨[], rfl⟩ (List.forall_mem_nil _)
  | cons b bs ih =>
    rw [List.forall_mem_cons, ← ih, itemsOfBson]
    constructor
    · rintro ⟨vs, h⟩
      obtain ⟨v, first, h⟩ := bind_eq_ok_iff.mp h
      obtain ⟨ws, rest, -⟩ := bind_eq_ok_iff.mp h
      exact ⟨⟨v, first⟩, ws, rest⟩
    · rintro ⟨⟨v, first⟩, ws, rest⟩
      exact ⟨v :: ws, by rw [first, ok_bind, rest]; rfl⟩

/-- A BSON value is read just if it is made of the kinds that values have. -/
theorem exists_ofBson_iff {b : Bson} : (∃ v, ofBson b = .ok v) ↔ b.Readable := by
  induction b using Bson.array_induction with
  | array items each =>
    have read_iff : (∃ v, ofBson (.array items) = .ok v) ↔ ∃ vs, itemsOfBson items = .ok vs := by
      rw [ofBson]
      constructor
      · rintro ⟨_, h⟩
        obtain ⟨vs, read, -⟩ := bind_eq_ok_iff.mp h
        exact ⟨vs, read⟩
      · rintro ⟨vs, read⟩
        exact ⟨.array vs, by rw [read]; rfl⟩
    rw [read_iff, exists_itemsOfBson_iff, forall₂_congr each]
    constructor
    · exact .array
    · intro readable
      cases readable with
      | array items => exact items
  | other b scalar =>
    cases b with
    | array items => exact absurd rfl (scalar items)
    | null => exact iff_of_true ⟨_, rfl⟩ .null
    | boolean x => exact iff_of_true ⟨_, rfl⟩ (.boolean x)
    | int32 n => exact iff_of_true ⟨_, rfl⟩ (.int32 n)
    | int64 n => exact iff_of_true ⟨_, rfl⟩ (.int64 n)
    | double x => exact iff_of_true ⟨_, rfl⟩ (.double x)
    | string s => exact iff_of_true ⟨_, rfl⟩ (.string s)
    | date millis => exact iff_of_true ⟨_, rfl⟩ (.date millis)
    | _ =>
      refine iff_of_false ?_ ?_
      · rintro ⟨v, read⟩
        cases read
      · intro readable
        cases readable

/-! ## What is read again -/

theorem itemsOfBson_itemsToBson_iff {items : List Value} :
    itemsOfBson (itemsToBson items) = .ok (floorItemDates items) ↔
      ∀ v ∈ items, ofBson v.toBson = .ok v.floorDates := by
  constructor
  · intro h
    induction items with
    | nil => exact List.forall_mem_nil _
    | cons v items ih =>
      obtain ⟨w, first, h⟩ := bind_eq_ok_iff.mp h
      obtain ⟨ws, rest, h⟩ := bind_eq_ok_iff.mp h
      cases h
      exact List.forall_mem_cons.mpr ⟨first, ih rest⟩
  · exact itemsOfBson_itemsToBson

/-- A value that was written in BSON is read with its dates at whole milliseconds just if none of them,
at any depth, is in a leap second. -/
theorem ofBson_toBson_eq_ok_iff {v : Value} :
    ofBson v.toBson = .ok v.floorDates ↔ v.LeapFree := by
  refine ⟨fun h => ?_, ofBson_toBson⟩
  induction v using Value.induction with
  | null => exact .null
  | boolean b => exact .boolean b
  | number x => exact .number x
  | date t =>
    injection h with h
    injection h with same
    exact .date (Instant.ofMillis_millis_iff.mp same)
  | string s => exact .string s
  | array items each =>
    obtain ⟨vs, read, h⟩ := bind_eq_ok_iff.mp h
    cases h
    exact .array fun v hv => each v hv (itemsOfBson_itemsToBson_iff.mp read v hv)

theorem itemsToJson_floorItemDates {items : List Value}
    (each : ∀ v ∈ items, v.floorDates.toJson = v.toJson) :
    itemsToJson (floorItemDates items) = itemsToJson items := by
  induction items with
  | nil => rfl
  | cons v vs ih =>
    obtain ⟨first, rest⟩ := List.forall_mem_cons.mp each
    rw [floorItemDates, itemsToJson, itemsToJson, first, ih rest]

/-- What is finer than a millisecond does not show in JSON. -/
theorem toJson_floorDates (v : Value) : v.floorDates.toJson = v.toJson := by
  induction v using Value.induction with
  | date t => exact congrArg (fun s => Json.object [(dateKey, .string s)]) (Rfc3339.text_floorMillis t)
  | array items each => exact congrArg Json.array (itemsToJson_floorItemDates each)
  | null => rfl
  | boolean b => rfl
  | number x => rfl
  | string s => rfl

end Value

/-! ## Documents -/

theorem Table.erase_eq_self {α : Type} {t : Table α} {name : String} (absent : name ∉ t.keys) :
    t.erase name = t := by
  refine Table.ext_get? fun n => ?_
  rw [Table.get?_erase]
  split
  · next same =>
    subst same
    exact (Entries.get?_eq_none_iff.mpr absent).symm
  · rfl

namespace StoredDocument

open FieldName (Recoverable)

theorem toJson_floorDates (id : String) (d : Document) :
    StoredDocument.toJson ⟨id, d.map Value.floorDates⟩ = StoredDocument.toJson ⟨id, d⟩ := by
  have same : (d.map Value.floorDates).map Value.toJson = d.map Value.toJson := by
    refine Table.eq_of_entries_eq ?_
    simp only [Table.map, List.map_map, Function.comp_def, Value.toJson_floorDates]
  rw [StoredDocument.toJson, StoredDocument.toJson, same]

/-- A document that was stored in BSON has the JSON that it had before, if its names are found again and
none is the name of the identifier. -/
theorem toJson_ofBson_toBson {id : String} {d : Document} (names : ∀ n ∈ d.keys, Recoverable n)
    (unnamed : storedIdKey ∉ d.keys) (dates : ∀ n v, d.get? n = some v → v.LeapFree) :
    ∃ e, ofBson (toBson ⟨id, d⟩) = .ok e ∧ e.toJson = toJson ⟨id, d⟩ := by
  have keys : (d.map Value.floorDates).keys = d.keys := by
    simp [Table.keys, Table.map, Entries.names, Function.comp_def]
  have whole : (d.map Value.floorDates).erase storedIdKey = d.map Value.floorDates :=
    Table.erase_eq_self (keys ▸ unnamed)
  refine ⟨⟨id, d.map Value.floorDates⟩, ?_, toJson_floorDates id d⟩
  rw [ofBson, get?_toBson_storedIdKey, fields_ofBson_toBson names dates, whole]
  rfl

/-- BSON is read just if it is made of the kinds that values have. What is written in BSON is read with
its dates at whole milliseconds, counted towards the past, just if none of them is in a leap second, and
that is not to be seen in JSON: neither in the JSON of the value, nor in that of a document whose names
a store keeps. -/
theorem bson_keeps_json :
    (∀ b : Bson, (∃ v, Value.ofBson b = .ok v) ↔ b.Readable) ∧
      (∀ v : Value, Value.ofBson v.toBson = .ok v.floorDates ↔ v.LeapFree) ∧
      (∀ t : Instant, t.millis = (t.seconds * 1000000000 + t.nanos) / 1000000) ∧
      (∀ v : Value, v.floorDates.toJson = v.toJson) ∧
      ∀ (id : String) (d : Document), (∀ n ∈ d.keys, Recoverable n) → storedIdKey ∉ d.keys →
        (∀ n v, d.get? n = some v → v.LeapFree) →
        ∃ e, ofBson (toBson ⟨id, d⟩) = .ok e ∧ e.toJson = toJson ⟨id, d⟩ :=
  ⟨fun _ => Value.exists_ofBson_iff, fun _ => Value.ofBson_toBson_eq_ok_iff, Instant.millis_eq_floor,
    Value.toJson_floorDates, fun _ _ => toJson_ofBson_toBson⟩

/-- A document with a date before 1970 in an array, a NaN, and a name that is escaped. -/
def measuredDocument : Document :=
  .ofList [("at", .array [.date lastMoment]), ("top.speed", .number .nan)]

theorem bson_keeps_json_measured :
    ∃ e, ofBson (toBson ⟨"p1", measuredDocument⟩) = .ok e ∧ e.toJson =
      .object [("at", .array [.object [("$date", .string "1969-12-31T23:59:59.999Z")]]),
        ("id", .string "p1"), ("top.speed", .null)] := by
  have dates : ∀ n v, measuredDocument.get? n = some v → v.LeapFree := by
    intro n v found
    have listed : (n, v) ∈ measuredDocument.entries := Table.mem_entries_iff.mpr found
    rcases listed with _ | ⟨_, _ | ⟨_, listed⟩⟩
    · exact .array (List.forall_mem_singleton.mpr (.date rfl))
    · exact .number _
    · cases listed
  obtain ⟨e, read, json⟩ :=
    bson_keeps_json.2.2.2.2 "p1" measuredDocument (by decide +kernel) (by decide +kernel) dates
  exact ⟨e, read, json.trans (by rfl)⟩

end StoredDocument

end Docstore
