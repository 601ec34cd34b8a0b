import Docstore.Proofs.Filter.Reference
import Docstore.Query.Selection

/-!
# Documents without the field

In memory, a document without the field of a comparison never meets it. A database takes what is not
there for null, so the filter of a comparison selects documents without the field exactly when the
comparison holds of null (`Operator.HoldsOfNull`): null is equal to null and in a list that has it.
The negations ask for the field to be there and stay clear of this; `equal`, the two orders that allow
equality, and `isIn` do not ask.
-/

namespace Docstore

/-- A positive operator holds of null, for operands that have or are null themselves. -/
def Operator.HoldsOfNull (op : Operator) (operand : Value) : Prop :=
  match op with
  | .equal | .greaterOrEqual | .lessOrEqual => operand = .null
  | .isIn => ∃ items, operand = .array items ∧ .null ∈ items
  | _ => False

/-- In memory no comparison holds of a field that is not there. -/
theorem Constraint.holds_absent {d : Document} {field : String} (absent : d.get? field = none)
    (op : Operator) (operand : Value) : holds d (.compare field op operand) = .ok false := by
  rw [holds, absent]

namespace Database

variable {db : Database} {op : Operator} {name : String} {operand : Value} {tests : List Test}

/-- Of a value that is not there, the filter of an operator asks what the operator asks of null. -/
theorem asks_absent_iff (negates : db.Negates) (absent : db.TakesAbsentForNull)
    (translated : Filter.tests op name operand = .ok tests) :
    db.Asks op operand tests none ↔ op.HoldsOfNull operand := by
  have not_array : db.meets Test.notArray.member none := (negates.notArray none).mpr absent.isArray
  have no_array : ¬ db.meets Test.isArray.member none := absent.isArray
  have not_present : ¬ db.meets Test.present.member none := absent.present
  have item (t : Test) : db.Passes [t] none ↔ db.meets t.member none := List.forall_mem_singleton
  have positive (t : Test) {scalars : Prop} :
      db.Passes [t] none ∧ (scalars → db.meets Test.notArray.member none) ↔
        db.meets t.member none := by
    rw [item, and_iff_left fun _ => not_array]
  have negative (t : Test) {scalars : Prop} :
      scalars ∧ db.meets Test.isArray.member none ∨ db.Passes [.present, t] none ↔ False := by
    simp [Passes, no_array, not_present]
  cases op
  all_goals simp only [Filter.tests, bind_eq_ok_iff, Filter.operandItems_eq_ok_iff, pure,
    Except.pure, Except.ok.injEq] at translated
  case equal =>
    subst translated
    exact (positive _).trans (absent.equal operand)
  case notEqual =>
    subst translated
    exact negative _
  case greater =>
    subst translated
    exact (positive _).trans (iff_false_intro (absent.greater operand))
  case less =>
    subst translated
    exact (positive _).trans (iff_false_intro (absent.less operand))
  case greaterOrEqual =>
    subst translated
    exact (positive _).trans (absent.greaterOrEqual operand)
  case lessOrEqual =>
    subst translated
    exact (positive _).trans (absent.lessOrEqual operand)
  case isIn =>
    obtain ⟨bs, ⟨items, rfl, rfl⟩, rfl⟩ := translated
    refine (positive _).trans ((absent.isIn items).trans ?_)
    simp [Operator.HoldsOfNull]
  case notIn =>
    obtain ⟨bs, -, rfl⟩ := translated
    exact negative _
  case arrayContains =>
    subst translated
    exact (item _).trans (iff_false_intro (absent.anyItem _))
  case arrayContainsAny =>
    obtain ⟨bs, -, rfl⟩ := translated
    exact (item _).trans (iff_false_intro (absent.anyItem _))

/-- A comparison put to a database selects a document without the field exactly when it holds of null;
in memory it never holds of such a document. -/
theorem selects_absent_iff (joins : db.Joins) (negates : db.Negates)
    (absent : db.TakesAbsentForNull) {field : String} {q : FilterQuery}
    (translated : FilterQuery.ofConstraints [.compare field op operand] = .ok q)
    {stored : BsonDocument} (lacks : Entries.get? (FieldName.escape field) stored = none) :
    (db.selects q.filter.toBson stored ↔ op.HoldsOfNull operand) ∧
      ∀ d : Document, d.get? field = none →
        Constraint.holds d (.compare field op operand) = .ok false := by
  refine ⟨?_, fun d absent => Constraint.holds_absent absent op operand⟩
  obtain ⟨fs, filters, made⟩ := bind_eq_ok_iff.mp translated
  obtain ⟨f, one, rest⟩ := bind_eq_ok_iff.mp filters
  obtain ⟨tests, ts, built⟩ := bind_eq_ok_iff.mp one
  cases built
  cases rest
  cases made
  show db.selects (Filter.ofTests op operand (FieldName.escape field) tests).toBson stored ↔ _
  rw [selects_ofTests_iff joins (FieldName.storable_escape field) (Filter.tests_ne_nil ts), lacks]
  exact asks_absent_iff negates absent ts

/-- Asked for documents whose author is null or Ada, a database finds one without an author. -/
theorem selects_absent_author :
    FilterQuery.ofConstraints
        [.compare "author" .isIn (.array [.null, .string "Ada"])] =
      .ok ⟨.field "author" [.isIn [.null, .string "Ada"], .notArray], []⟩ ∧
    reference.selects
      (Filter.field "author" [.isIn [.null, .string "Ada"], .notArray]).toBson
      [("title", .string "Notes")] := by
  have translated : FilterQuery.ofConstraints
      [.compare "author" .isIn (.array [.null, .string "Ada"])] =
        .ok ⟨.field "author" [.isIn [.null, .string "Ada"], .notArray], []⟩ := rfl
  refine ⟨translated, ?_⟩
  have holds : Operator.HoldsOfNull .isIn (.array [.null, .string "Ada"]) :=
    ⟨_, rfl, List.mem_cons_self⟩
  exact (selects_absent_iff Reference.joins Reference.negates Reference.takesAbsentForNull
    translated rfl).1.mpr holds

/-- It is not so that no comparison selects a document without the field: `equal` to null does. -/
theorem not_forall_absent_not_selected :
    ¬ ∀ db : Database, db.Joins → db.Negates → db.TakesAbsentForNull →
      ∀ (field : String) (op : Operator) (operand : Value) (q : FilterQuery)
        (stored : BsonDocument),
        FilterQuery.ofConstraints [.compare field op operand] = .ok q →
        Entries.get? (FieldName.escape field) stored = none →
        ¬ db.selects q.filter.toBson stored := by
  intro h
  refine h reference Reference.joins Reference.negates Reference.takesAbsentForNull "a" .equal .null
    ⟨.field "a" [.equal .null, .notArray], []⟩ [] rfl rfl ?_
  rfl

end Database

end Docstore
