import Docstore.Proofs.Bson.ArrayOrder
import Docstore.Proofs.Bson.Stored
import Docstore.Proofs.Filter.Reference
import Docstore.Query.Selection

/-!
# Comparisons with arrays

Where an operand is an array, or a list with an array in it, the filter of a comparison is its bare
test. In memory such an operand is compared with the whole value of a field. A database tries each item
of that value too, and it has an order of arrays, which memory has not. So the two part
(`Operator.Diverges`) on arrays with an item that passes where they themselves fail, and on arrays that
stand in the order of a database as a range operator asks. `Database.selects_array_iff` says that they
part nowhere else.
-/

namespace Docstore

namespace Operator

/-- An operator that compares whole values is used with an array, or with a list that has one. -/
def TakesArrays (op : Operator) (operand : Value) : Prop :=
  match op with
  | .arrayContains | .arrayContainsAny => False
  | .isIn | .notIn => ∃ items, operand = .array items ∧ items.any Value.isArray = true
  | _ => operand.isArray = true

/-- With arrays, the filter of an operator is its bare test. -/
theorem comparesScalars_of_takesArrays {op : Operator} {operand : Value}
    (takes : op.TakesArrays operand) : Filter.comparesScalars op operand = false := by
  cases op with
  | isIn | notIn =>
    obtain ⟨items, rfl, some_array⟩ := takes
    simp [Filter.comparesScalars, some_array]
  | arrayContains | arrayContainsAny => cases takes
  | _ =>
    have array : operand.isArray = true := takes
    simp [Filter.comparesScalars, array]

end Operator

/-- An array fails a check that one of its items passes. -/
def Value.OnlyItem (check : Value → Bool) (v : Value) : Prop :=
  check v = false ∧ ∃ items, v = .array items ∧ ∃ w ∈ items, check w = true

/-- Where a database and the check in memory part on an operand that has arrays. -/
def Operator.Diverges (apart : Bson → Bson → Ordering) (op : Operator) (v operand : Value) : Prop :=
  match op with
  | .equal | .notEqual => v.OnlyItem fun w => w.same operand
  | .isIn | .notIn => v.OnlyItem fun w => operand.items?.any fun operands => Value.hasItem operands w
  | .greater | .greaterOrEqual | .less | .lessOrEqual =>
    ∃ w ∈ Database.candidates (some v),
      (Bson.compareWhole? apart w.toBson operand.toBson).any op.admits = true
  | .arrayContains | .arrayContainsAny => False

namespace Database

variable {apart : Bson → Bson → Ordering}

/-! ## The law -/

/-- An operator holds of a value with a candidate that compares as asked, arrays with arrays. -/
def ComparesBy (db : Database) (apart : Bson → Bson → Ordering) (name : String)
    (asked : Ordering → Bool) : Prop :=
  ∀ operand v : Value, operand.Portable → v.Portable →
    (db.meets (name, operand.toBson) (some v.toBson) ↔
      ∃ w ∈ candidates (some v),
        (Bson.compareWhole? apart w.toBson operand.toBson).any asked = true)

/-- Any operand is compared with candidates. An array is compared item by item, where `apart` says
which of two kinds comes first. -/
structure ComparesWhole (db : Database) (apart : Bson → Bson → Ordering) : Prop where
  tellsKinds : Bson.TellsKinds apart
  equal : db.ComparesBy apart "$eq" (· == .eq)
  greater : db.ComparesBy apart "$gt" (· == .gt)
  greaterOrEqual : db.ComparesBy apart "$gte" (· != .lt)
  less : db.ComparesBy apart "$lt" (· == .lt)
  lessOrEqual : db.ComparesBy apart "$lte" (· != .gt)
  isIn {operands : List Value} {v : Value} (portable_operands : ∀ o ∈ operands, o.Portable)
    (portable : v.Portable) :
    db.meets ("$in", .array (Value.itemsToBson operands)) (some v.toBson) ↔
      ∃ w ∈ candidates (some v), ∃ o ∈ operands,
        Bson.compareWhole? apart w.toBson o.toBson = some .eq
  present (v : Value) : db.meets ("$exists", .boolean true) (some v.toBson)

/-! ## A database that follows it -/

/-- The filters that select a document, given what meets the members of conditions. -/
inductive Selected (meets : String × Bson → Option Bson → Prop) (d : BsonDocument) :
    BsonDocument → Prop where
  | everything : Selected meets d []
  | allOf {fs : List BsonDocument} (some_filter : fs ≠ []) (all : ∀ f ∈ fs, Selected meets d f) :
    Selected meets d [("$and", .array (fs.map .document))]
  | anyOf {fs : List BsonDocument} {f : BsonDocument} (mem : f ∈ fs) (selected : Selected meets d f) :
    Selected meets d [("$or", .array (fs.map .document))]
  | field {name : String} {condition : BsonDocument} (storable : FieldName.Storable name)
    (all : ∀ m ∈ condition, meets m (Entries.get? name d)) :
    Selected meets d [(name, .document condition)]

/-- What is under a name meets a member of a condition, where operands are compared as a whole. What
is not compared is met as in `Reference`. -/
def meetsWhole (apart : Bson → Bson → Ordering) (m : String × Bson) (b? : Option Bson) : Bool :=
  let compares (asked : Ordering → Bool) (operand : Bson) : Bool :=
    (Reference.candidates b?).any fun b => (Bson.compareWhole? apart b operand).any asked
  let oneOf (operands : List Bson) : Bool :=
    (Reference.candidates b?).any fun b =>
      operands.any fun o => Bson.compareWhole? apart b o == some .eq
  match m with
  | ("$eq", operand) => compares (· == .eq) operand
  | ("$ne", operand) => !compares (· == .eq) operand
  | ("$gt", operand) => compares (· == .gt) operand
  | ("$gte", operand) => compares (· != .lt) operand
  | ("$lt", operand) => compares (· == .lt) operand
  | ("$lte", operand) => compares (· != .gt) operand
  | ("$in", .array operands) => oneOf operands
  | ("$nin", .array operands) => !oneOf operands
  | m => Reference.meets m b?

/-- The database that compares operands as a whole. -/
def wholeReference (apart : Bson → Bson → Ordering) : Database where
  selects filter d := Selected (fun m b? => meetsWhole apart m b? = true) d filter
  meets m b? := meetsWhole apart m b? = true

theorem wholeReference_joins : (wholeReference apart).Joins where
  everything d := .everything
  allOf {fs} d some_filter := by
    constructor
    · generalize written : [("$and", Bson.array (fs.map .document))] = filter
      rintro (_ | ⟨_, all⟩ | _ | ⟨storable, _⟩)
      · cases written
      · simp only [List.cons.injEq, Prod.mk.injEq, Bson.array.injEq, true_and, and_true] at written
        rwa [(List.map_inj_right fun _ _ => Bson.document.inj).mp written]
      · simp at written
      · simp at written
    · exact Selected.allOf some_filter
  anyOf {fs} d some_filter := by
    constructor
    · generalize written : [("$or", Bson.array (fs.map .document))] = filter
      rintro (_ | _ | ⟨mem, selected⟩ | _)
      · cases written
      · simp at written
      · simp only [List.cons.injEq, Prod.mk.injEq, Bson.array.injEq, true_and, and_true] at written
        rw [(List.map_inj_right fun _ _ => Bson.document.inj).mp written]
        exact ⟨_, mem, selected⟩
      · simp at written
    · rintro ⟨f, mem, selected⟩
      exact .anyOf mem selected
  field {name condition} d storable some_member known := by
    constructor
    · generalize written : [(name, Bson.document condition)] = filter
      rintro (_ | _ | _ | ⟨_, all⟩)
      · cases written
      · simp at written
      · simp at written
      · simp only [List.cons.injEq, Prod.mk.injEq, Bson.document.injEq, and_true] at written
        obtain ⟨rfl, rfl⟩ := written
        exact all
    · exact Selected.field storable

theorem wholeReference_negates : (wholeReference apart).Negates where
  notEqual b b? := by simp [wholeReference, meetsWhole]
  notIn bs b? := by simp [wholeReference, meetsWhole]
  notArray b? := by simp [wholeReference, meetsWhole, Reference.meets]

theorem wholeReference_comparesWhole (told : Bson.TellsKinds apart) :
    (wholeReference apart).ComparesWhole apart where
  tellsKinds := told
  equal operand v _ _ := by simp [wholeReference, meetsWhole, Reference.candidates_toBson]
  greater operand v _ _ := by simp [wholeReference, meetsWhole, Reference.candidates_toBson]
  greaterOrEqual operand v _ _ := by simp [wholeReference, meetsWhole, Reference.candidates_toBson]
  less operand v _ _ := by simp [wholeReference, meetsWhole, Reference.candidates_toBson]
  lessOrEqual operand v _ _ := by simp [wholeReference, meetsWhole, Reference.candidates_toBson]
  isIn _ _ := by
    simp [wholeReference, meetsWhole, Reference.candidates_toBson, Value.itemsToBson_eq_map]
  present v := by simp [wholeReference, meetsWhole, Reference.meets]

/-- The place of a kind of values among the others in a document database. -/
def kindPlace : Bson → Nat
  | .null => 0
  | .int32 _ | .int64 _ | .double _ => 1
  | .string _ | .symbol _ => 2
  | .document _ => 3
  | .array _ => 4
  | .objectId _ => 5
  | .boolean _ => 6
  | .date _ => 7
  | _ => 8

/-- Values of two kinds in the order of their kinds. -/
def byKind (a b : Bson) : Ordering := compare (kindPlace a) (kindPlace b)

theorem tellsKinds_byKind : Bson.TellsKinds byKind := by
  intro v w kinds tie
  have places : kindPlace v.toBson = kindPlace w.toBson := Nat.compare_eq_eq.mp tie
  cases v <;> cases w <;> first | exact kinds rfl | cases places

/-! ## What the tests find -/

variable {db : Database} {op : Operator} {v operand : Value}

theorem portable_of_mem_candidates (portable : v.Portable) :
    ∀ w ∈ candidates (some v), w.Portable := by
  cases v with
  | array items =>
    cases portable with
    | array h => exact List.forall_mem_cons.mpr ⟨.array h, h⟩
  | _ => exact List.forall_mem_singleton.mpr portable

/-- The test for equality finds a candidate equal to the operand. -/
theorem ComparesWhole.meets_equal_iff (laws : db.ComparesWhole apart) (portable : v.Portable)
    (portable_operand : operand.Portable) :
    db.meets (Test.equal operand.toBson).member (some v.toBson) ↔
      ∃ w ∈ candidates (some v), w.same operand = true := by
  refine (laws.equal operand v portable_operand portable).trans ?_
  refine exists_congr fun w => and_congr_right fun hw => ?_
  rw [← Value.compareWhole?_toBson_eq_iff laws.tellsKinds (portable_of_mem_candidates portable w hw)
    portable_operand, Option.any_eq_true]
  simp

/-- The test for membership finds a candidate equal to an operand. -/
theorem ComparesWhole.meets_isIn_iff (laws : db.ComparesWhole apart) (portable : v.Portable)
    {operands : List Value} (portable_operands : ∀ o ∈ operands, o.Portable) :
    db.meets (Test.isIn (Value.itemsToBson operands)).member (some v.toBson) ↔
      ∃ w ∈ candidates (some v), Value.hasItem operands w = true := by
  refine (laws.isIn portable_operands portable).trans ?_
  refine exists_congr fun w => and_congr_right fun hw => ?_
  rw [Value.hasItem, List.any_eq_true]
  refine exists_congr fun o => and_congr_right fun ho => ?_
  rw [Value.same_comm, Value.compareWhole?_toBson_eq_iff laws.tellsKinds
    (portable_of_mem_candidates portable w hw) (portable_operands o ho)]

/-- Trying the items too makes no difference unless only an item passes. -/
theorem exists_candidate_iff_self (check : Value → Bool) (v : Value) :
    ((∃ w ∈ candidates (some v), check w = true) ↔ check v = true) ↔ ¬ v.OnlyItem check := by
  unfold Value.OnlyItem
  cases passes : check v <;> cases v <;> simp [candidates, passes]

/-- Without scalars to compare with, a filter asks for its tests alone. -/
theorem asks_iff_passes {tests : List Test} {b? : Option Bson}
    (bare : Filter.comparesScalars op operand = false) :
    db.Asks op operand tests b? ↔ db.Passes tests b? := by
  cases op <;> simp [Asks, bare]

section

variable {t : Test} {check : Value → Bool}

/-- A bare test is the check in memory unless only an item passes. -/
theorem positive_whole_iff
    (found : db.meets t.member (some v.toBson) ↔ ∃ w ∈ candidates (some v), check w = true)
    (bare : Filter.comparesScalars op operand = false) :
    (db.Asks op operand [t] (some v.toBson) ↔ check v = true) ↔ ¬ v.OnlyItem check := by
  rw [asks_iff_passes bare, Passes, List.forall_mem_singleton, found]
  exact exists_candidate_iff_self check v

/-- A bare negation is the failure of the check in memory unless only an item passes. -/
theorem negative_whole_iff {n : Test}
    (found : db.meets t.member (some v.toBson) ↔ ∃ w ∈ candidates (some v), check w = true)
    (negates : ∀ b?, db.meets n.member b? ↔ ¬ db.meets t.member b?)
    (present : db.meets Test.present.member (some v.toBson))
    (bare : Filter.comparesScalars op operand = false) :
    (db.Asks op operand [.present, n] (some v.toBson) ↔ (!check v) = true) ↔
      ¬ v.OnlyItem check := by
  rw [asks_iff_passes bare, Passes, List.forall_mem_cons, List.forall_mem_singleton,
    and_iff_right present, negates, found, Bool.not_eq_true', ← Bool.not_eq_true]
  classical exact Decidable.not_iff_not.trans (exists_candidate_iff_self check v)

/-- A bare test by order is what memory says of arrays, that nothing compares, unless something
does. -/
theorem order_whole_iff {asked : Ordering → Bool}
    (found : db.meets t.member (some v.toBson) ↔ ∃ w ∈ candidates (some v),
      (Bson.compareWhole? apart w.toBson operand.toBson).any asked = true)
    (array : operand.isArray = true) (bare : Filter.comparesScalars op operand = false) :
    (db.Asks op operand [t] (some v.toBson) ↔ (v.compare? operand).any op.admits = true) ↔
      ¬ ∃ w ∈ candidates (some v),
        (Bson.compareWhole? apart w.toBson operand.toBson).any asked = true := by
  have beside : v.compare? operand = none := by
    cases operand with
    | array items => cases v <;> rfl
    | _ => cases array
  rw [asks_iff_passes bare, Passes, List.forall_mem_singleton, found, beside]
  exact iff_false_right Bool.false_ne_true

end

/-- The bare test of an operator and its check in memory agree about a value unless they part. -/
theorem asks_iff_check_iff (laws : db.ComparesWhole apart) (negates : db.Negates)
    (takes : op.TakesArrays operand) (portable : v.Portable) (portable_operand : operand.Portable)
    (name : String) :
    ∃ tests b, Filter.tests op name operand = .ok tests ∧ op.holds? v operand = some b ∧
      ((db.Asks op operand tests (some v.toBson) ↔ b = true) ↔ ¬ op.Diverges apart v operand) := by
  have bare := Operator.comparesScalars_of_takesArrays takes
  have in_order {name : String} {asked : Ordering → Bool} (law : db.ComparesBy apart name asked) :=
    law operand v portable_operand portable
  cases op with
  | equal =>
    exact ⟨_, _, rfl, rfl,
      positive_whole_iff (laws.meets_equal_iff portable portable_operand) bare⟩
  | notEqual =>
    exact ⟨_, _, rfl, rfl,
      negative_whole_iff (n := .notEqual _) (laws.meets_equal_iff portable portable_operand)
        (negates.notEqual _) (laws.present v) bare⟩
  | greater =>
    exact ⟨_, _, rfl, rfl, order_whole_iff (t := .greater _) (in_order laws.greater) takes bare⟩
  | greaterOrEqual =>
    exact ⟨_, _, rfl, rfl,
      order_whole_iff (t := .greaterOrEqual _) (in_order laws.greaterOrEqual) takes bare⟩
  | less =>
    exact ⟨_, _, rfl, rfl, order_whole_iff (t := .less _) (in_order laws.less) takes bare⟩
  | lessOrEqual =>
    exact ⟨_, _, rfl, rfl,
      order_whole_iff (t := .lessOrEqual _) (in_order laws.lessOrEqual) takes bare⟩
  | isIn =>
    obtain ⟨operands, rfl, -⟩ := takes
    cases portable_operand with
    | array portable_operands =>
      exact ⟨_, _, rfl, rfl, positive_whole_iff (laws.meets_isIn_iff portable portable_operands) bare⟩
  | notIn =>
    obtain ⟨operands, rfl, -⟩ := takes
    cases portable_operand with
    | array portable_operands =>
      exact ⟨_, _, rfl, rfl,
        negative_whole_iff (n := .notIn _) (laws.meets_isIn_iff portable portable_operands)
          (negates.notIn _) (laws.present v) bare⟩
  | arrayContains | arrayContainsAny => cases takes

/-! ## Selected documents -/

/-- Of a stored document with the field, an operator on arrays selects what the check in memory accepts,
except where the two part. -/
theorem selects_array_iff (joins : db.Joins) (negates : db.Negates) (laws : db.ComparesWhole apart)
    {d : Document} {field : String} (storable : FieldName.Storable field)
    (found : d.get? field = some v) (takes : op.TakesArrays operand) (portable : v.Portable)
    (portable_operand : operand.Portable) :
    ∃ q, FilterQuery.ofConstraints [.compare field op operand] = .ok q ∧
      ((db.selects q.filter.toBson d.toBson ↔
          Constraint.holds d (.compare field op operand) = .ok true) ↔
        ¬ op.Diverges apart v operand) := by
  obtain ⟨tests, b, translated, checked, agree⟩ :=
    asks_iff_check_iff laws negates takes portable portable_operand field
  have holds : Constraint.holds d (.compare field op operand) = .ok b := by
    rw [Constraint.holds, found]
    simp only [checked]
  have filtered : Filter.ofConstraint (.compare field op operand) =
      .ok (Filter.ofTests op operand (FieldName.escape field) tests) :=
    bind_eq_ok_iff.mpr ⟨tests, translated, rfl⟩
  refine ⟨⟨Filter.ofTests op operand (FieldName.escape field) tests, []⟩, ?_, ?_⟩
  · rw [FilterQuery.ofConstraints, Filter.ofConstraints, filtered]
    rfl
  · rw [FieldName.escape_of_storable storable,
      selects_ofTests_iff joins storable (Filter.tests_ne_nil translated),
      Document.get?_toBson_of_storable storable found, holds, Except.ok.injEq]
    exact agree

/-- A document with the tags `rust` and `wasm`. -/
def twoTags : Document :=
  Table.insert ∅ "tags" (.array [.string "rust", .string "wasm"])

/-- A list of one tag and of an array with two has the tags of the document, to a database too. -/
theorem selects_twoTags :
    ∃ q, FilterQuery.ofConstraints [.compare "tags" .isIn
        (.array [.string "go", .array [.string "rust", .string "wasm"]])] = .ok q ∧
      (wholeReference byKind).selects q.filter.toBson twoTags.toBson := by
  have portable_tags : (Value.array [.string "rust", .string "wasm"]).Portable :=
    .array (List.forall_mem_cons.mpr ⟨.string _, List.forall_mem_singleton.mpr (.string _)⟩)
  have portable_operand :
      (Value.array [.string "go", .array [.string "rust", .string "wasm"]]).Portable :=
    .array (List.forall_mem_cons.mpr ⟨.string _, List.forall_mem_singleton.mpr portable_tags⟩)
  have storable : FieldName.Storable "tags" := by decide
  have has_array : Operator.TakesArrays .isIn
      (.array [.string "go", .array [.string "rust", .string "wasm"]]) := ⟨_, rfl, rfl⟩
  have found : twoTags.get? "tags" = some (.array [.string "rust", .string "wasm"]) := rfl
  obtain ⟨q, translated, agree⟩ := selects_array_iff wholeReference_joins wholeReference_negates
    (wholeReference_comparesWhole tellsKinds_byKind) storable found has_array portable_tags
    portable_operand
  have met : Constraint.holds twoTags (.compare "tags" .isIn
      (.array [.string "go", .array [.string "rust", .string "wasm"]])) = .ok true := rfl
  have together : ¬ Operator.Diverges byKind .isIn (.array [.string "rust", .string "wasm"])
      (.array [.string "go", .array [.string "rust", .string "wasm"]]) := by
    rintro ⟨fails, -⟩
    exact absurd fails (by decide)
  exact ⟨q, translated, (agree.mpr together).mpr met⟩

/-- A document whose only tag is an array with the tag `rust`. -/
def nestedTag : Document := Table.insert ∅ "tags" (.array [.array [.string "rust"]])

/-- A database that follows the laws selects it for tags equal to `["rust"]`, which in memory they are
not. -/
theorem selects_nestedTag_not_holds :
    ∃ (db : Database) (apart : Bson → Bson → Ordering),
      db.Joins ∧ db.Negates ∧ db.ComparesWhole apart ∧
      ∃ q, FilterQuery.ofConstraints
          [.compare "tags" .equal (.array [.string "rust"])] = .ok q ∧
        db.selects q.filter.toBson nestedTag.toBson ∧
        Constraint.holds nestedTag (.compare "tags" .equal (.array [.string "rust"])) = .ok false := by
  have storable : FieldName.Storable "tags" := by decide
  have found : meetsWhole byKind ("$eq", .array [.string "rust"])
      (some (.array [.array [.string "rust"]])) = true := by decide
  refine ⟨wholeReference byKind, byKind, wholeReference_joins, wholeReference_negates,
    wholeReference_comparesWhole tellsKinds_byKind,
    ⟨.field "tags" [.equal (.array [.string "rust"])], []⟩, rfl, ?_, rfl⟩
  exact Selected.field storable (List.forall_mem_singleton.mpr found)

end Database

end Docstore
