import Docstore.Proofs.Filter.Database

/-!
# A database that follows the laws

The laws of `Database` can be met: `Database.reference` is an evaluator of filter documents that
follows all of them. It reads the written form of a filter and nothing else, so that a filter written
with another operator is another filter to it. It compares scalars; an operand that is an array is
beside every value, about which the laws say nothing.
-/

namespace Docstore

namespace Reference

/-- What an operand is compared with: an array and its items, and null where there is nothing. -/
def candidates : Option Bson → List Bson
  | none => [.null]
  | some (.array items) => .array items :: items
  | some b => [b]

/-- Some candidate compares with an operand as asked. -/
def compares (asked : Ordering → Bool) (operand : Bson) (b? : Option Bson) : Bool :=
  (candidates b?).any fun b => (b.compare? operand).any asked

/-- A value equals some operand. -/
def oneOf (operands : List Bson) (b : Bson) : Bool :=
  operands.any fun operand => b.compare? operand == some .eq

def isArray : Option Bson → Bool
  | some (.array _) => true
  | _ => false

/-- Some item of an array is as asked. -/
def anyItem (asked : Bson → Bool) : Option Bson → Bool
  | some (.array items) => items.any asked
  | _ => false

/-- What is under a name is an array with an item that meets a condition. -/
def meetsOnItem (condition : Bson) (b? : Option Bson) : Bool :=
  match condition with
  | .document [("$eq", operand)] => anyItem (fun b => b.compare? operand == some .eq) b?
  | .document [("$in", .array operands)] => anyItem (oneOf operands) b?
  | _ => false

/-- What is under a name meets a member of a condition. -/
def meets (m : String × Bson) (b? : Option Bson) : Bool :=
  match m with
  | ("$eq", operand) => compares (· == .eq) operand b?
  | ("$ne", operand) => !compares (· == .eq) operand b?
  | ("$gt", operand) => compares (· == .gt) operand b?
  | ("$gte", operand) => compares (· != .lt) operand b?
  | ("$lt", operand) => compares (· == .lt) operand b?
  | ("$lte", operand) => compares (· != .gt) operand b?
  | ("$in", .array operands) => (candidates b?).any (oneOf operands)
  | ("$nin", .array operands) => !(candidates b?).any (oneOf operands)
  | ("$exists", .boolean expected) => b?.isSome == expected
  | ("$type", .string "array") => isArray b?
  | ("$not", .document [("$type", .string "array")]) => !isArray b?
  | ("$elemMatch", condition) => meetsOnItem condition b?
  | _ => false

/-- What is under a name meets a condition. A value that is no document is to be equalled. -/
def meetsCondition (condition : Bson) (b? : Option Bson) : Bool :=
  match condition with
  | .document members => members.all fun m => meets m b?
  | operand => compares (· == .eq) operand b?

mutual

/-- A document passes a filter. -/
def passes (d : BsonDocument) : Bson → Bool
  | .document members => passesMembers d members
  | _ => false

/-- A document passes each member of a filter. -/
def passesMembers (d : BsonDocument) : List (String × Bson) → Bool
  | [] => true
  | (name, b) :: ms =>
    (if name = "$and" then passesEach d b
      else if name = "$or" then passesSome d b
      else meetsCondition b (Entries.get? name d)) && passesMembers d ms

/-- A document passes each of the filters that an array lists. -/
def passesEach (d : BsonDocument) : Bson → Bool
  | .array fs => passesAll d fs
  | _ => false

/-- A document passes one of the filters that an array lists. -/
def passesSome (d : BsonDocument) : Bson → Bool
  | .array fs => passesAny d fs
  | _ => false

def passesAll (d : BsonDocument) : List Bson → Bool
  | [] => true
  | f :: fs => passes d f && passesAll d fs

def passesAny (d : BsonDocument) : List Bson → Bool
  | [] => false
  | f :: fs => passes d f || passesAny d fs

end

end Reference

namespace Database

/-- The database that evaluates filters as `Reference` does. -/
def reference : Database where
  selects filter d := Reference.passesMembers d filter = true
  meets m b? := Reference.meets m b? = true

end Database

namespace Reference

open Database

@[simp] theorem selects_iff (filter d : BsonDocument) :
    reference.selects filter d ↔ passesMembers d filter = true := Iff.rfl

@[simp] theorem meets_iff (m : String × Bson) (b? : Option Bson) :
    reference.meets m b? ↔ meets m b? = true := Iff.rfl

theorem passesAll_iff (d : BsonDocument) (fs : List BsonDocument) :
    passesAll d (fs.map .document) = true ↔ ∀ f ∈ fs, passesMembers d f = true := by
  induction fs with
  | nil => simp [passesAll]
  | cons f fs ih => simp [passesAll, passes, ih]

theorem passesAny_iff (d : BsonDocument) (fs : List BsonDocument) :
    passesAny d (fs.map .document) = true ↔ ∃ f ∈ fs, passesMembers d f = true := by
  induction fs with
  | nil => simp [passesAny]
  | cons f fs ih => simp [passesAny, passes, ih]

theorem joins : reference.Joins where
  everything d := by
    rw [selects_iff, passesMembers]
  allOf d some_filter := by
    rw [selects_iff, passesMembers, if_pos rfl, passesEach, passesMembers, Bool.and_true,
      passesAll_iff]
    exact Iff.rfl
  anyOf d some_filter := by
    rw [selects_iff, passesMembers, if_neg (by decide), if_pos rfl, passesSome, passesMembers,
      Bool.and_true, passesAny_iff]
    exact Iff.rfl
  field {name condition} d storable some_member known := by
    have no_dollar : '$' ∉ name.toList :=
      storable ⟨'$', "__dollar__".toList⟩ (.tail _ (.head _))
    have not_and : name ≠ "$and" := by
      rintro rfl
      exact no_dollar (by decide)
    have not_or : name ≠ "$or" := by
      rintro rfl
      exact no_dollar (by decide)
    rw [selects_iff, passesMembers, if_neg not_and, if_neg not_or, meetsCondition, passesMembers,
      Bool.and_true, List.all_eq_true]
    exact Iff.rfl

theorem negates : reference.Negates where
  notEqual b b? := by simp [meets]
  notIn bs b? := by simp [meets]
  notArray b? := by simp [meets]

/-! ## Names without a value -/

/-- Null stands beside every value but itself. -/
theorem compare?_null (v : Value) :
    Bson.null.compare? v.toBson = if v.isNull then some .eq else none := by
  cases v <;> rfl

/-- Where there is nothing, only null compares, and as equal. -/
theorem compares_none_iff {asked : Ordering → Bool} (v : Value) :
    compares asked v.toBson none = true ↔ v = .null ∧ asked .eq = true := by
  rw [compares, candidates, List.any_cons, List.any_nil, Bool.or_false, compare?_null,
    ← Value.isNull_iff]
  cases v.isNull <;> simp

/-- Where there is nothing, there is no item. -/
theorem meetsOnItem_none (condition : Bson) : meetsOnItem condition none = false := by
  unfold meetsOnItem
  split <;> rfl

theorem takesAbsentForNull : reference.TakesAbsentForNull where
  present := by simp [meets]
  isArray := by simp [meets, isArray]
  anyItem condition := by simp [meets, meetsOnItem_none]
  equal v := by simp [meets, compares_none_iff]
  greaterOrEqual v := by simp [meets, compares_none_iff]
  lessOrEqual v := by simp [meets, compares_none_iff]
  greater v := by simp [meets, compares_none_iff]
  less v := by simp [meets, compares_none_iff]
  isIn vs := by
    simp [meets, candidates, oneOf, Value.itemsToBson_eq_map, compare?_null,
      Value.isNull_iff]

/-! ## Candidates -/

theorem candidates_toBson (v : Value) :
    candidates (some v.toBson) = (Database.candidates (some v)).map Value.toBson := by
  cases v with
  | array items =>
    exact congrArg (Bson.array (Value.itemsToBson items) :: ·) (Value.itemsToBson_eq_map items)
  | _ => rfl

/-- The candidates of a value are the candidates of its BSON form. Nothing else is asked about null. -/
theorem any_candidates_iff {asked : Bson → Bool} (not_null : asked .null = false)
    (v? : Option Value) :
    (candidates (v?.map Value.toBson)).any asked = true ↔
      ∃ w ∈ Database.candidates v?, asked w.toBson = true := by
  cases v? with
  | none => simp [candidates, Database.candidates, not_null]
  | some v =>
    rw [Option.map_some, candidates_toBson, List.any_map, List.any_eq_true]
    exact Iff.rfl

theorem isNull_of_scalar {v : Value} (h : v.PortableScalar) : v.isNull = false := h.1.1

/-- No scalar is one of the places of null. -/
theorem oneOf_null {operands : List Value} (scalars : ∀ o ∈ operands, o.PortableScalar) :
    oneOf (Value.itemsToBson operands) .null = false := by
  rw [oneOf, Value.itemsToBson_eq_map, List.any_map, List.any_eq_false]
  intro o ho
  simp [compare?_null, isNull_of_scalar (scalars o ho)]

theorem oneOf_iff (operands : List Value) (b : Bson) :
    oneOf (Value.itemsToBson operands) b = true ↔
      ∃ o ∈ operands, b.compare? o.toBson = some .eq := by
  simp [oneOf, Value.itemsToBson_eq_map]

theorem compares_scalar_iff {asked : Ordering → Bool} {operand : Value}
    (scalar : operand.PortableScalar) (v? : Option Value) :
    compares asked operand.toBson (v?.map Value.toBson) = true ↔
      ∃ w ∈ Database.candidates v?, (w.toBson.compare? operand.toBson).any asked = true := by
  refine @any_candidates_iff (fun b => (b.compare? operand.toBson).any asked) ?_ v?
  simp [compare?_null, isNull_of_scalar scalar]

/-- A condition on items is one on the values of an array. -/
theorem anyItem_iff (asked : Bson → Bool) (v? : Option Value) :
    anyItem asked (v?.map Value.toBson) = true ↔
      ∃ items, v? = some (.array items) ∧ ∃ w ∈ items, asked w.toBson = true := by
  cases v? with
  | none => simp [anyItem]
  | some v => cases v <;> simp [anyItem, Value.toBson, Value.itemsToBson_eq_map]

theorem isArray_iff (v? : Option Value) :
    isArray (v?.map Value.toBson) = true ↔ v?.any Value.isArray = true := by
  cases v? with
  | none => rfl
  | some v => cases v <;> rfl

theorem comparesCandidates : reference.ComparesCandidates where
  equal operand v? scalar portable := by simp [meets, compares_scalar_iff scalar]
  greater operand v? scalar portable := by simp [meets, compares_scalar_iff scalar]
  greaterOrEqual operand v? scalar portable := by simp [meets, compares_scalar_iff scalar]
  less operand v? scalar portable := by simp [meets, compares_scalar_iff scalar]
  lessOrEqual operand v? scalar portable := by simp [meets, compares_scalar_iff scalar]
  isIn scalars portable := by simp [meets, any_candidates_iff (oneOf_null scalars), oneOf_iff]
  present v? := by simp [meets]
  isArray v? := by simp [meets, isArray_iff]
  itemEqual scalar portable := by simp [meets, meetsOnItem, anyItem_iff]
  itemIn scalars portable := by simp [meets, meetsOnItem, anyItem_iff, oneOf_iff]

end Reference

end Docstore
