import Docstore.Proofs.Bson.Stored
import Docstore.Proofs.Filter.Reference
import Docstore.Proofs.Query.Meaning

/-!
# Comparisons with scalars

Constraints whose operands are scalars, or lists of scalars for the operators that take a list, select
the same documents in memory and in a database (`Database.selects_toBson_iff`).

The two differ about arrays, which a database opens and a comparison in memory does not, and about
fields that are not there. So tests are compared with the check in memory on plain values only
(`Database.Finds`): values that are there and are no arrays. `Database.positive_iff` and
`Database.negative_iff` say that the filters around a test mend the rest, for any test that finds what
a check does. The ten operators are then ten pairs of a test and a check.
-/

namespace Docstore

/-- An operator is used with a scalar, or with a list of scalars where it takes a list. -/
def Operator.TakesScalars (op : Operator) (operand : Value) : Prop :=
  if op.needsArray then ∃ items, operand = .array items ∧ ∀ o ∈ items, o.PortableScalar
  else operand.PortableScalar

/-- A constraint compares with scalars only. -/
def Constraint.OnScalars : Constraint → Prop
  | .compare _ op operand => op.TakesScalars operand
  | .orderBy _ _ => True

/-- A document whose values lose nothing when they are stored. -/
def Document.Portable (d : Document) : Prop := ∀ n v, d.get? n = some v → v.Portable

namespace Document.Portable

theorem empty : Portable ∅ := fun _ _ h => nomatch h

theorem insert {d : Document} {v : Value} (portable : d.Portable) (name : String)
    (h : v.Portable) : Portable (d.insert name v) := by
  intro n w found
  rw [Table.get?_insert] at found
  split at found
  · exact Option.some.inj found ▸ h
  · exact portable n w found

end Document.Portable

namespace Value

/-- Storing keeps which values equal a scalar. -/
theorem same_iff_compare?_toBson {v operand : Value} (portable : v.Portable)
    (scalar : operand.PortableScalar) :
    v.same operand = true ↔ v.toBson.compare? operand.toBson = some .eq := by
  rw [same_iff_compare? scalar.1, compare?_toBson portable scalar]

/-- A list of scalars has an item that equals a value when the value equals one of them. -/
theorem hasItem_iff {operands : List Value} (scalars : ∀ o ∈ operands, o.PortableScalar) {v : Value}
    (portable : v.Portable) :
    hasItem operands v = true ↔
      ∃ o ∈ operands, v.toBson.compare? o.toBson = some .eq := by
  rw [hasItem, List.any_eq_true]
  refine exists_congr fun o => and_congr_right fun ho => ?_
  rw [same_comm_of_isScalar (scalars o ho).1, same_iff_compare?_toBson portable (scalars o ho)]

/-- An array is not beside any scalar. -/
theorem compare?_of_isArray {v : Value} (array : v.isArray = true) (w : Value) :
    v.compare? w = none := by
  cases v with
  | array items => rfl
  | _ => cases array

theorem hasItem_of_isArray {operands : List Value} (scalars : ∀ o ∈ operands, o.PortableScalar)
    {v : Value} (array : v.isArray = true) : hasItem operands v = false := by
  rw [hasItem, List.any_eq_false]
  intro o ho same
  rw [same_comm_of_isScalar (scalars o ho).1, same_iff_compare? (scalars o ho).1,
    compare?_of_isArray array] at same
  cases same

end Value

namespace Database

variable {db : Database} {v : Value} {v? : Option Value} {operand : Value} {operands : List Value}

/-! ## What tests find -/

theorem candidates_of_not_array (plain : v.isArray = false) : candidates (some v) = [v] := by
  cases v with
  | array items => cases plain
  | _ => rfl

/-- A test finds what passes a check, as far as plain values go. The check fails on arrays and the
test on what is not there. -/
structure Finds (db : Database) (t : Test) (check : Value → Bool) : Prop where
  plain {v : Value} : v.Portable → v.isArray = false →
    (db.meets t.member (some v.toBson) ↔ check v = true)
  array {v : Value} : v.isArray = true → check v = false
  absent : ¬ db.meets t.member none

/-- A test by order finds the values that compare as it asks. -/
theorem Compares.finds {name : String} {asked : Ordering → Bool} (law : db.Compares name asked)
    {t : Test} (written : t.member = (name, operand.toBson)) (scalar : operand.PortableScalar) :
    db.Finds t fun v => (v.compare? operand).any asked where
  plain {v} portable plain := by
    rw [written]
    refine (law operand (some v) scalar fun w hw => Option.some.inj hw ▸ portable).trans ?_
    simp [candidates_of_not_array plain, Value.compare?_toBson portable scalar]
  array array := by
    simp [Value.compare?_of_isArray array]
  absent := by
    rw [written]
    refine (not_congr (law operand none scalar fun w hw => nomatch hw)).mpr ?_
    simp [candidates]

/-- The test for equality finds the values that equal a scalar. -/
theorem ComparesCandidates.finds_equal (laws : db.ComparesCandidates)
    (scalar : operand.PortableScalar) :
    db.Finds (.equal operand.toBson) fun v => v.same operand := by
  have same_check : (fun v : Value => v.same operand) =
      fun v => (v.compare? operand).any (· == .eq) := by
    funext v
    rw [Bool.eq_iff_iff, Value.same_iff_compare? scalar.1, Option.any_eq_true]
    simp
  rw [same_check]
  exact laws.equal.finds rfl scalar

/-- The test for membership finds the values that equal an item of a list of scalars. -/
theorem ComparesCandidates.finds_isIn (laws : db.ComparesCandidates)
    (scalars : ∀ o ∈ operands, o.PortableScalar) :
    db.Finds (.isIn (Value.itemsToBson operands)) (Value.hasItem operands) where
  plain {v} portable plain := by
    refine (@laws.isIn operands (some v) scalars fun w hw => Option.some.inj hw ▸ portable).trans ?_
    simp [candidates_of_not_array plain, Value.hasItem_iff scalars portable]
  array array := Value.hasItem_of_isArray scalars array
  absent := by
    refine (not_congr (@laws.isIn operands none scalars fun w hw => nomatch hw)).mpr ?_
    simp [candidates]

/-! ## What the filters around a test ask -/

section

variable {t : Test} {check : Value → Bool}

/-- A test that leaves arrays out finds what its check does. -/
theorem positive_iff (laws : db.ComparesCandidates) (negates : db.Negates) (found : db.Finds t check)
    (portable : ∀ v ∈ v?, v.Portable) {scalars : Bool} (only : scalars = true) :
    db.Passes [t] (v?.map Value.toBson) ∧
        (scalars = true → db.meets Test.notArray.member (v?.map Value.toBson)) ↔
      v?.any check = true := by
  have not_array : db.meets Test.notArray.member (v?.map Value.toBson) ↔
      ¬ v?.any Value.isArray = true :=
    (negates.notArray _).trans (not_congr (laws.isArray v?))
  rw [Passes, List.forall_mem_singleton, not_array]
  cases v? with
  | none => simp [found.absent]
  | some v =>
    cases array : v.isArray with
    | true => simp [found.array array, array, only]
    | false => simp [found.plain (portable v rfl) array, array]

/-- The negation of a test, on arrays and on whatever is there, finds what its check does not. -/
theorem negative_iff (laws : db.ComparesCandidates) (found : db.Finds t check) {n : Test}
    (negates : ∀ b?, db.meets n.member b? ↔ ¬ db.meets t.member b?)
    (portable : ∀ v ∈ v?, v.Portable) {scalars : Bool} (only : scalars = true) :
    (scalars = true ∧ db.meets Test.isArray.member (v?.map Value.toBson)) ∨
        db.Passes [.present, n] (v?.map Value.toBson) ↔
      (v?.any fun v => !check v) = true := by
  have array_test : db.meets Test.isArray.member (v?.map Value.toBson) ↔
      v?.any Value.isArray = true := laws.isArray v?
  have present_test : db.meets Test.present.member (v?.map Value.toBson) ↔ v?.isSome = true :=
    laws.present v?
  rw [Passes, List.forall_mem_cons, List.forall_mem_singleton, array_test, present_test, negates]
  cases v? with
  | none => simp
  | some v =>
    cases array : v.isArray with
    | true => simp [found.array array, array, only]
    | false => simp [found.plain (portable v rfl) array, array]

/-- A test on items finds the arrays with an item that passes a check. -/
theorem items_iff {asked : Value → Prop} {check : Value → Bool}
    (agree : ∀ w : Value, w.Portable → (asked w ↔ check w = true))
    (portable : ∀ v ∈ v?, v.Portable) :
    (∃ items, v? = some (.array items) ∧ ∃ w ∈ items, asked w) ↔
      (v?.any fun v => v.items?.any fun items => items.any check) = true := by
  cases v? with
  | none => simp
  | some v =>
    cases v with
    | array items =>
      have portable_items : ∀ w ∈ items, w.Portable := by
        cases portable (.array items) rfl with
        | array h => exact h
      have some_item : (∃ w ∈ items, asked w) ↔ items.any check = true := by
        rw [List.any_eq_true]
        exact exists_congr fun w => and_congr_right fun hw => agree w (portable_items w hw)
      simp [Value.items?, some_item]
    | _ => simp [Value.items?]

end

/-! ## Operators -/

/-- With scalars, the operators that compare a value as a whole leave arrays to the filter. -/
theorem comparesScalars_of_takesScalars {op : Operator} (scalars : op.TakesScalars operand)
    (whole : op ≠ .arrayContainsAny) : Filter.comparesScalars op operand = true := by
  have no_array {items : List Value} (h : ∀ o ∈ items, o.PortableScalar) :
      items.any Value.isArray = false := by
    rw [List.any_eq_false]
    intro o ho
    rw [(h o ho).1.2]
    decide
  cases op with
  | isIn =>
    obtain ⟨items, rfl, h⟩ := scalars
    simp [Filter.comparesScalars, no_array h]
  | notIn =>
    obtain ⟨items, rfl, h⟩ := scalars
    simp [Filter.comparesScalars, no_array h]
  | arrayContainsAny => exact absurd rfl whole
  | _ =>
    have plain : operand.isArray = false := scalars.1.2
    simp [Filter.comparesScalars, plain]

/-- With scalars an operator has tests and a check, and its filter asks of a value what the check
does. -/
theorem asks_iff_check (laws : db.ComparesCandidates) (negates : db.Negates) {op : Operator}
    (name : String) (scalars : op.TakesScalars operand) :
    ∃ tests check, Filter.tests op name operand = .ok tests ∧
      (∀ v, op.holds? v operand = some (check v)) ∧
      ∀ v? : Option Value, (∀ v ∈ v?, v.Portable) →
        (db.Asks op operand tests (v?.map Value.toBson) ↔ v?.any check = true) := by
  have whole := comparesScalars_of_takesScalars scalars
  cases op with
  | equal =>
    exact ⟨_, _, rfl, fun v => rfl, fun v? portable =>
      positive_iff laws negates (laws.finds_equal scalars) portable (whole nofun)⟩
  | notEqual =>
    exact ⟨_, _, rfl, fun v => rfl, fun v? portable =>
      negative_iff (n := .notEqual _) laws (laws.finds_equal scalars) (negates.notEqual _) portable
        (whole nofun)⟩
  | greater =>
    exact ⟨_, _, rfl, fun v => rfl, fun v? portable =>
      positive_iff laws negates (laws.greater.finds rfl scalars) portable (whole nofun)⟩
  | less =>
    exact ⟨_, _, rfl, fun v => rfl, fun v? portable =>
      positive_iff laws negates (laws.less.finds rfl scalars) portable (whole nofun)⟩
  | greaterOrEqual =>
    exact ⟨_, _, rfl, fun v => rfl, fun v? portable =>
      positive_iff laws negates (laws.greaterOrEqual.finds rfl scalars) portable (whole nofun)⟩
  | lessOrEqual =>
    exact ⟨_, _, rfl, fun v => rfl, fun v? portable =>
      positive_iff laws negates (laws.lessOrEqual.finds rfl scalars) portable (whole nofun)⟩
  | isIn =>
    obtain ⟨items, rfl, h⟩ := scalars
    exact ⟨_, _, rfl, fun v => rfl, fun v? portable =>
      positive_iff laws negates (laws.finds_isIn h) portable (whole nofun)⟩
  | notIn =>
    obtain ⟨items, rfl, h⟩ := scalars
    exact ⟨_, _, rfl, fun v => rfl, fun v? portable =>
      negative_iff (n := .notIn _) laws (laws.finds_isIn h) (negates.notIn _) portable
        (whole nofun)⟩
  | arrayContains =>
    refine ⟨_, _, rfl, fun v => rfl, fun v? portable => ?_⟩
    refine List.forall_mem_singleton.trans ((laws.itemEqual scalars portable).trans ?_)
    exact items_iff (fun w hw => (Value.same_iff_compare?_toBson hw scalars).symm) portable
  | arrayContainsAny =>
    obtain ⟨items, rfl, h⟩ := scalars
    refine ⟨_, _, rfl, fun v => rfl, fun v? portable => ?_⟩
    refine List.forall_mem_singleton.trans ((laws.itemIn h portable).trans ?_)
    exact items_iff (fun w hw => (Value.hasItem_iff h hw).symm) portable

end Database

/-! ## Documents -/

namespace Constraint

variable {d : Document}

/-- A comparison that is a check on values holds of a document whose value passes it. -/
theorem holds_compare_iff {op : Operator} {operand : Value} {check : Value → Bool}
    (checks : ∀ v, op.holds? v operand = some (check v)) (field : String) :
    holds d (.compare field op operand) = .ok true ↔ (d.get? field).any check = true := by
  rw [holds]
  cases d.get? field with
  | none => simp
  | some v => simp [checks v]

end Constraint

namespace Database

variable {db : Database} {d : Document}

/-- A constraint on scalars has a filter, and this selects a stored document when the document meets
the constraint. -/
theorem exists_filter (joins : db.Joins) (negates : db.Negates) (laws : db.ComparesCandidates)
    (names : ∀ n ∈ d.keys, FieldName.Storable n) (portable : d.Portable) {c : Constraint}
    (storable : FieldName.Storable c.field) (scalars : c.OnScalars) :
    ∃ f, Filter.ofConstraint c = .ok f ∧
      (db.selects f.toBson d.toBson ↔ c.holds d = .ok true) := by
  cases c with
  | compare field op operand =>
    obtain ⟨tests, check, translated, checks, asked⟩ := asks_iff_check laws negates field scalars
    refine ⟨_, bind_eq_ok_iff.mpr ⟨tests, translated, rfl⟩, ?_⟩
    have storable : FieldName.Storable field := storable
    rw [FieldName.escape_of_storable storable,
      selects_ofTests_iff joins storable (Filter.tests_ne_nil translated),
      Document.get?_toBson names, asked _ fun v hv => portable field v hv,
      Constraint.holds_compare_iff checks]
  | orderBy field direction =>
    refine ⟨_, rfl, ?_⟩
    have storable : FieldName.Storable field := storable
    rw [FieldName.escape_of_storable storable,
      selects_field_iff joins storable (List.cons_ne_nil _ _), Document.get?_toBson names]
    refine List.forall_mem_singleton.trans ((laws.present (d.get? field)).trans ?_)
    rw [Constraint.holds, Table.contains, Except.ok.injEq]

/-- Constraints on scalars have filters, and these all select a stored document when the document meets
the constraints. -/
theorem exists_filters (joins : db.Joins) (negates : db.Negates) (laws : db.ComparesCandidates)
    (names : ∀ n ∈ d.keys, FieldName.Storable n) (portable : d.Portable) {cs : List Constraint}
    (storable : ∀ c ∈ cs, FieldName.Storable c.field) (scalars : ∀ c ∈ cs, c.OnScalars) :
    ∃ fs, Filter.ofConstraints cs = .ok fs ∧
      ((∀ f ∈ fs, db.selects f.toBson d.toBson) ↔ Constraint.allHold d cs = .ok true) := by
  induction cs with
  | nil => exact ⟨[], rfl, by simp [Constraint.allHold]⟩
  | cons c cs ih =>
    obtain ⟨storable_c, storable_cs⟩ := List.forall_mem_cons.mp storable
    obtain ⟨scalars_c, scalars_cs⟩ := List.forall_mem_cons.mp scalars
    obtain ⟨f, first, f_iff⟩ := exists_filter joins negates laws names portable storable_c scalars_c
    obtain ⟨fs, rest, fs_iff⟩ := ih storable_cs scalars_cs
    refine ⟨f :: fs, ?_, ?_⟩
    · rw [Filter.ofConstraints, first, ok_bind, rest]
      rfl
    · rw [List.forall_mem_cons, f_iff, fs_iff, Constraint.allHold_cons_iff]

/-- Constraints on scalars can be put to a database, and it selects the documents that meet them in
memory. -/
theorem selects_toBson_iff (joins : db.Joins) (negates : db.Negates) (laws : db.ComparesCandidates)
    (names : ∀ n ∈ d.keys, FieldName.Storable n) (portable : d.Portable) {cs : List Constraint}
    (storable : ∀ c ∈ cs, FieldName.Storable c.field) (scalars : ∀ c ∈ cs, c.OnScalars) :
    ∃ q, FilterQuery.ofConstraints cs = .ok q ∧
      (db.selects q.filter.toBson d.toBson ↔ Constraint.allHold d cs = .ok true) := by
  obtain ⟨fs, translated, fs_iff⟩ :=
    exists_filters joins negates laws names portable storable scalars
  refine ⟨_, bind_eq_ok_iff.mpr ⟨fs, translated, rfl⟩, ?_⟩
  rw [selects_conjunction_iff joins, fs_iff]

/-- A document with an array beside a number. -/
def taggedDocument : Document :=
  .ofList [("tags", .array [.string "rust", .array [.string "wasm"]]), ("views", .number (.zero true))]

/-- Of the tags as a whole and of one of them, of the views, and of their order. -/
def taggedQuery : List Constraint :=
  [.compare "tags" .notEqual (.string "rust"), .compare "tags" .arrayContains (.string "rust"),
    .compare "views" .greaterOrEqual (.number (.zero false)), .compare "views" .notIn (.array []),
    .orderBy "views" .descending]

theorem selects_taggedDocument :
    ∃ q, FilterQuery.ofConstraints taggedQuery = .ok q ∧
      reference.selects q.filter.toBson taggedDocument.toBson := by
  have portable : taggedDocument.Portable :=
    (Document.Portable.empty.insert "tags" (.array (by
      intro v hv
      rcases hv with _ | ⟨_, _ | ⟨_, hv⟩⟩
      · exact .string "rust"
      · exact .array fun w hw => List.mem_singleton.mp hw ▸ .string "wasm"
      · cases hv))).insert "views" (.number (by decide +kernel))
  have scalars : ∀ c ∈ taggedQuery, c.OnScalars := by
    intro c hc
    simp only [taggedQuery, List.mem_cons, List.not_mem_nil, or_false] at hc
    rcases hc with rfl | rfl | rfl | rfl | rfl
    · exact ⟨⟨rfl, rfl⟩, .string "rust"⟩
    · exact ⟨⟨rfl, rfl⟩, .string "rust"⟩
    · exact ⟨⟨rfl, rfl⟩, .number (by decide +kernel)⟩
    · exact ⟨[], rfl, List.forall_mem_nil _⟩
    · trivial
  have names : ∀ n ∈ taggedDocument.keys, FieldName.Storable n := by decide
  have fields : ∀ c ∈ taggedQuery, FieldName.Storable c.field := by decide
  obtain ⟨q, translated, selected_iff⟩ := selects_toBson_iff Reference.joins Reference.negates
    Reference.comparesCandidates names portable fields scalars
  exact ⟨q, translated, selected_iff.mpr rfl⟩

end Database

end Docstore
