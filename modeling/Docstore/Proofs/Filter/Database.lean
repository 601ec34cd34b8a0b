import Docstore.Filter.Translation
import Docstore.Proofs.Bson.FieldName
import Docstore.Proofs.Bson.Order
import Docstore.Proofs.Result

/-!
# What a database does with a filter

A filter is written for a database that is not part of this library. `Database` is such a database as
far as filters go: which documents a filter selects, and what meets a member of a condition. The laws
that its manual gives are stated one structure each, so that a theorem names those it needs:

- `Database.Joins`: how members, conditions and filters are joined;
- `Database.Negates`: which operators negate which;
- `Database.TakesAbsentForNull`: what a name without a value meets;
- `Database.ComparesCandidates`: what scalars are compared with, which for an array is the array and
  each of its items.

`Database.selects_ofTests_iff` and `Database.selects_conjunction_iff` then read the filters that
constraints stand for. What is left to say about an operator is what its tests ask of one value
(`Database.Asks`).
-/

namespace Docstore

/-- A document database, as far as filters go. -/
structure Database where
  /-- A filter selects a stored document. -/
  selects : BsonDocument → BsonDocument → Prop
  /-- What is under a name, if anything is, meets a member of a condition. -/
  meets : String × Bson → Option Bson → Prop

namespace Database

/-- The operators of conditions. -/
def operators : List String :=
  ["$eq", "$ne", "$gt", "$gte", "$lt", "$lte", "$in", "$nin", "$exists", "$type", "$not",
    "$elemMatch"]

/-- The values that scalars are compared with: an array counts as itself and as each of its items. -/
def candidates : Option Value → List Value
  | none => []
  | some (.array items) => .array items :: items
  | some v => [v]

/-! ## Laws -/

/-- Members of a condition all have to be met, and filters are joined as their names say. -/
structure Joins (db : Database) : Prop where
  everything (d : BsonDocument) : db.selects [] d
  allOf {fs : List BsonDocument} (d : BsonDocument) (some_filter : fs ≠ []) :
    db.selects [("$and", .array (fs.map .document))] d ↔ ∀ f ∈ fs, db.selects f d
  anyOf {fs : List BsonDocument} (d : BsonDocument) (some_filter : fs ≠ []) :
    db.selects [("$or", .array (fs.map .document))] d ↔ ∃ f ∈ fs, db.selects f d
  field {name : String} {condition : BsonDocument} (d : BsonDocument)
    (storable : FieldName.Storable name) (some_member : condition ≠ [])
    (known : ∀ m ∈ condition, m.1 ∈ operators) :
    db.selects [(name, .document condition)] d ↔
      ∀ m ∈ condition, db.meets m (Entries.get? name d)

/-- Three operators are negations. A name without a value meets them when it fails the others. -/
structure Negates (db : Database) : Prop where
  notEqual (b : Bson) (b? : Option Bson) : db.meets ("$ne", b) b? ↔ ¬ db.meets ("$eq", b) b?
  notIn (bs : List Bson) (b? : Option Bson) :
    db.meets ("$nin", .array bs) b? ↔ ¬ db.meets ("$in", .array bs) b?
  notArray (b? : Option Bson) :
    db.meets ("$not", .document [("$type", .string "array")]) b? ↔
      ¬ db.meets ("$type", .string "array") b?

/-- A name without a value is compared as if it had null. -/
structure TakesAbsentForNull (db : Database) : Prop where
  present : ¬ db.meets ("$exists", .boolean true) none
  isArray : ¬ db.meets ("$type", .string "array") none
  anyItem (condition : BsonDocument) : ¬ db.meets ("$elemMatch", .document condition) none
  equal (v : Value) : db.meets ("$eq", v.toBson) none ↔ v = .null
  greaterOrEqual (v : Value) : db.meets ("$gte", v.toBson) none ↔ v = .null
  lessOrEqual (v : Value) : db.meets ("$lte", v.toBson) none ↔ v = .null
  greater (v : Value) : ¬ db.meets ("$gt", v.toBson) none
  less (v : Value) : ¬ db.meets ("$lt", v.toBson) none
  isIn (vs : List Value) :
    db.meets ("$in", .array (Value.itemsToBson vs)) none ↔ Value.null ∈ vs

/-- An operator holds of what has a candidate of the operand's kind that compares as asked. -/
def Compares (db : Database) (name : String) (asked : Ordering → Bool) : Prop :=
  ∀ (operand : Value) (v? : Option Value), operand.PortableScalar → (∀ v ∈ v?, v.Portable) →
    (db.meets (name, operand.toBson) (v?.map Value.toBson) ↔
      ∃ w ∈ candidates v?, (w.toBson.compare? operand.toBson).any asked = true)

/-- Scalars are compared with candidates, and a condition on items with the items alone. -/
structure ComparesCandidates (db : Database) : Prop where
  equal : db.Compares "$eq" (· == .eq)
  greater : db.Compares "$gt" (· == .gt)
  greaterOrEqual : db.Compares "$gte" (· != .lt)
  less : db.Compares "$lt" (· == .lt)
  lessOrEqual : db.Compares "$lte" (· != .gt)
  isIn {operands : List Value} {v? : Option Value} (scalars : ∀ o ∈ operands, o.PortableScalar)
    (portable : ∀ v ∈ v?, v.Portable) :
    db.meets ("$in", .array (Value.itemsToBson operands)) (v?.map Value.toBson) ↔
      ∃ w ∈ candidates v?, ∃ o ∈ operands, w.toBson.compare? o.toBson = some .eq
  present (v? : Option Value) :
    db.meets ("$exists", .boolean true) (v?.map Value.toBson) ↔ v?.isSome = true
  isArray (v? : Option Value) :
    db.meets ("$type", .string "array") (v?.map Value.toBson) ↔ v?.any Value.isArray = true
  itemEqual {operand : Value} {v? : Option Value} (scalar : operand.PortableScalar)
    (portable : ∀ v ∈ v?, v.Portable) :
    db.meets ("$elemMatch", .document [("$eq", operand.toBson)]) (v?.map Value.toBson) ↔
      ∃ items, v? = some (.array items) ∧
        ∃ w ∈ items, w.toBson.compare? operand.toBson = some .eq
  itemIn {operands : List Value} {v? : Option Value} (scalars : ∀ o ∈ operands, o.PortableScalar)
    (portable : ∀ v ∈ v?, v.Portable) :
    db.meets ("$elemMatch", .document [("$in", .array (Value.itemsToBson operands))])
        (v?.map Value.toBson) ↔
      ∃ items, v? = some (.array items) ∧
        ∃ w ∈ items, ∃ o ∈ operands, w.toBson.compare? o.toBson = some .eq

end Database

/-! ## Filters as they are read -/

theorem Test.member_mem_operators (t : Test) : t.member.1 ∈ Database.operators := by
  cases t <;> simp [member, arrayType, Database.operators]

namespace Filter

theorem documents_eq_map (fs : List Filter) :
    documents fs = (fs.map toBson).map Bson.document := by
  induction fs with
  | nil => rfl
  | cons f fs ih => rw [documents, ih, List.map_cons, List.map_cons]

/-- An operand has items when it is an array. -/
theorem operandItems_eq_ok_iff {op : Operator} {name : String} {operand : Value} {bs : List Bson} :
    operandItems op name operand = .ok bs ↔
      ∃ items, operand = .array items ∧ Value.itemsToBson items = bs := by
  cases operand <;> simp [operandItems]

/-- Every operator has tests. -/
theorem tests_ne_nil {op : Operator} {name : String} {operand : Value} {ts : List Test}
    (h : tests op name operand = .ok ts) : ts ≠ [] := by
  rintro rfl
  cases op <;> simp [tests, bind_eq_ok_iff, pure, Except.pure] at h

end Filter

namespace Database

variable {db : Database}

/-- A value under a name passes tests. -/
def Passes (db : Database) (tests : List Test) (b? : Option Bson) : Prop :=
  ∀ t ∈ tests, db.meets t.member b?

/-- A filter on a field selects the documents whose value there passes its tests. -/
theorem selects_field_iff (joins : db.Joins) {name : String} {tests : List Test}
    (storable : FieldName.Storable name) (some_test : tests ≠ []) (d : BsonDocument) :
    db.selects (Filter.field name tests).toBson d ↔ db.Passes tests (Entries.get? name d) := by
  have known : ∀ m ∈ tests.map Test.member, m.1 ∈ operators := by
    intro m hm
    obtain ⟨t, -, rfl⟩ := List.mem_map.mp hm
    exact t.member_mem_operators
  rw [Filter.toBson, joins.field d storable (by simpa using some_test) known, List.forall_mem_map]
  exact Iff.rfl

/-- A filter with alternatives selects the documents that one of them does. -/
theorem selects_anyOf_iff (joins : db.Joins) {fs : List Filter} (some_filter : fs ≠ [])
    (d : BsonDocument) :
    db.selects (Filter.anyOf fs).toBson d ↔ ∃ f ∈ fs, db.selects f.toBson d := by
  rw [Filter.toBson, Filter.documents_eq_map, joins.anyOf d (by simpa using some_filter)]
  constructor
  · rintro ⟨b, hb, selected⟩
    obtain ⟨f, hf, rfl⟩ := List.mem_map.mp hb
    exact ⟨f, hf, selected⟩
  · rintro ⟨f, hf, selected⟩
    exact ⟨f.toBson, List.mem_map_of_mem hf, selected⟩

/-- A filter with several parts selects the documents that all of them do. -/
theorem selects_allOf_iff (joins : db.Joins) {fs : List Filter} (some_filter : fs ≠ [])
    (d : BsonDocument) :
    db.selects (Filter.allOf fs).toBson d ↔ ∀ f ∈ fs, db.selects f.toBson d := by
  rw [Filter.toBson, Filter.documents_eq_map, joins.allOf d (by simpa using some_filter),
    List.forall_mem_map]

/-- What the filter of an operator asks of the value under its name: its tests, where arrays are left
out of comparisons with scalars and let through by the negations of these. -/
def Asks (db : Database) (op : Operator) (operand : Value) (tests : List Test) (b? : Option Bson) :
    Prop :=
  match op with
  | .arrayContains | .arrayContainsAny => db.Passes tests b?
  | .notEqual | .notIn =>
    (Filter.comparesScalars op operand = true ∧ db.meets Test.isArray.member b?) ∨
      db.Passes tests b?
  | _ =>
    db.Passes tests b? ∧
      (Filter.comparesScalars op operand = true → db.meets Test.notArray.member b?)

/-- The filter of an operator selects the documents whose value meets what it asks. -/
theorem selects_ofTests_iff (joins : db.Joins) {name : String} {tests : List Test}
    (storable : FieldName.Storable name) (some_test : tests ≠ []) (op : Operator) (operand : Value)
    (d : BsonDocument) :
    db.selects (Filter.ofTests op operand name tests).toBson d ↔
      db.Asks op operand tests (Entries.get? name d) := by
  have plain := selects_field_iff joins storable some_test d
  have array := selects_field_iff joins storable (List.cons_ne_nil Test.isArray []) d
  have guarded := selects_field_iff joins storable
    (List.append_ne_nil_of_left_ne_nil some_test [Test.notArray]) d
  have negation : db.selects
        (Filter.anyOf [.field name [.isArray], .field name tests]).toBson d ↔
      db.meets Test.isArray.member (Entries.get? name d) ∨
        db.Passes tests (Entries.get? name d) := by
    rw [selects_anyOf_iff joins (List.cons_ne_nil _ _)]
    simp [plain, array, Passes]
  unfold Filter.ofTests Asks
  by_cases scalars : Filter.comparesScalars op operand = true
  · cases op <;> simp [scalars, plain, negation, guarded, Passes, or_imp, forall_and]
  · cases op <;> simp [scalars, plain]

/-- A joined filter selects what all of its parts do, however many there are. -/
theorem selects_conjunction_iff (joins : db.Joins) (fs : List Filter) (d : BsonDocument) :
    db.selects (Filter.conjunction fs).toBson d ↔ ∀ f ∈ fs, db.selects f.toBson d := by
  match fs with
  | [] =>
    rw [Filter.conjunction, Filter.toBson]
    exact iff_of_true (joins.everything d) (List.forall_mem_nil _)
  | [f] =>
    rw [Filter.conjunction, List.forall_mem_singleton]
  | f :: g :: fs =>
    exact selects_allOf_iff joins (List.cons_ne_nil f (g :: fs)) d

end Database

end Docstore
