import Docstore.Filter.Translation
import Docstore.Proofs.Query.Meaning
import Docstore.Store.Memory

/-!
# Malformed constraints

Three operators compare with a list of values, and an operand that is no list makes the constraint
malformed. The translation for a database meets it whatever is stored; a store in memory meets it only
on a document that has the field and meets the constraints before. Still the two agree
(`Store.list_and_filters_blame_first_malformed`): they blame the same constraint, the first malformed
one, in the same words, and where the store in memory does not notice it, it finds nothing.

What makes the store in memory agree is that no document gets past a malformed constraint: the check
stops there, by a failure or because the field is missing. So whatever comes later, malformed or not,
is never looked at (`Constraint.allHold_of_firstMalformed`).
-/

namespace Docstore

/-- The operators that compare with a list of values, and what messages call them. -/
inductive Operator.ComparesWithList : Operator → String → Prop
  | isIn : ComparesWithList .isIn "in"
  | notIn : ComparesWithList .notIn "not-in"
  | arrayContainsAny : ComparesWithList .arrayContainsAny "array-contains-any"

theorem Operator.comparesWithList_token {op : Operator} (needs : op.needsArray = true) :
    op.ComparesWithList op.token := by
  cases op with
  | isIn => exact .isIn
  | notIn => exact .notIn
  | arrayContainsAny => exact .arrayContainsAny
  | _ => cases needs

theorem Failure.message_arrayNeeded (op : Operator) (field : String) :
    message (.query (.arrayNeeded op field)) =
      "Invalid query: '" ++ op.token ++ "' on '" ++ field ++ "' needs an array of values" := by
  have lead : "Invalid query: '" = "Invalid query: " ++ "'" := by decide
  calc message (.query (.arrayNeeded op field))
    _ = "Invalid query: " ++
          ("'" ++ op.token ++ "' on '" ++ field ++ "' needs an array of values") := rfl
    _ = _ := by simp only [lead, String.append_assoc]

theorem Operator.holds?_eq_none_iff {op : Operator} {v operand : Value} :
    op.holds? v operand = none ↔ op.needsArray = true ∧ operand.isArray = false := by
  cases op <;> cases operand <;> simp [holds?, needsArray, Value.items?, Value.isArray]

namespace Constraint

/-- A comparison with an operand that has to be an array of values and is none. -/
def Malformed : Constraint → Prop
  | .compare _ op operand => op.needsArray = true ∧ operand.isArray = false
  | .orderBy _ _ => False

instance (c : Constraint) : Decidable c.Malformed :=
  match c with
  | .compare _ op operand =>
    inferInstanceAs (Decidable (op.needsArray = true ∧ operand.isArray = false))
  | .orderBy _ _ => inferInstanceAs (Decidable False)

/-- The first malformed constraint of a list compares a field by an operator, and others come before
it. -/
structure FirstMalformed (cs before : List Constraint) (op : Operator) (field : String) : Prop where
  none_before : ∀ c ∈ before, ¬ c.Malformed
  found : ∃ operand after, cs = before ++ .compare field op operand :: after ∧
    (compare field op operand).Malformed

/-- A list of constraints has no malformed one, or a first. -/
theorem exists_firstMalformed (cs : List Constraint) :
    (∀ c ∈ cs, ¬ c.Malformed) ∨ ∃ before op field, FirstMalformed cs before op field := by
  induction cs with
  | nil => exact .inl (List.forall_mem_nil _)
  | cons c cs ih =>
    by_cases first : c.Malformed
    · cases c with
      | compare field op operand =>
        exact .inr ⟨[], op, field, List.forall_mem_nil _, operand, cs, rfl, first⟩
      | orderBy field direction => exact first.elim
    · rcases ih with none | ⟨before, op, field, none_before, operand, after, rfl, malformed⟩
      · exact .inl (List.forall_mem_cons.mpr ⟨first, none⟩)
      · exact .inr ⟨c :: before, op, field, List.forall_mem_cons.mpr ⟨first, none_before⟩, operand,
          after, rfl, malformed⟩

/-! ## In memory -/

variable {d : Document} {c : Constraint} {cs before : List Constraint}

/-- A constraint that is not malformed is met or not. -/
theorem exists_holds (h : ¬ c.Malformed) : ∃ b, holds d c = .ok b := by
  cases c with
  | orderBy field direction => exact ⟨_, rfl⟩
  | compare field op operand =>
    rw [holds]
    cases d.get? field with
    | none => exact ⟨false, rfl⟩
    | some v =>
      cases checked : op.holds? v operand with
      | none => exact (h (Operator.holds?_eq_none_iff.mp checked)).elim
      | some b => exact ⟨b, by simp only [checked]⟩

/-- A malformed constraint is never met: it fails on a document with the field. -/
theorem holds_of_malformed {op : Operator} {field : String} {operand : Value}
    (h : (compare field op operand).Malformed) :
    holds d (.compare field op operand) =
      if d.contains field then .error (.query (.arrayNeeded op field)) else .ok false := by
  rw [holds, Table.contains]
  cases d.get? field with
  | none => rfl
  | some v =>
    have no_answer : op.holds? v operand = none := Operator.holds?_eq_none_iff.mpr h
    simp [no_answer]

/-- Constraints of which none is malformed are all met or not. -/
theorem exists_allHold (h : ∀ c ∈ cs, ¬ c.Malformed) : ∃ b, allHold d cs = .ok b := by
  induction cs with
  | nil => exact ⟨true, rfl⟩
  | cons c cs ih =>
    obtain ⟨first, rest⟩ := List.forall_mem_cons.mp h
    obtain ⟨met, checked⟩ := @exists_holds d c first
    rw [allHold, checked, ok_bind]
    cases met with
    | false => exact ⟨false, rfl⟩
    | true => exact ih rest

/-- A document meets the constraints before one and has its field. -/
def Reaches (before : List Constraint) (field : String) (d : Document) : Prop :=
  (∀ c ∈ before, c.Met d) ∧ d.contains field = true

/-- No document gets past the first malformed constraint. It fails on those that reach it. -/
theorem allHold_of_firstMalformed {op : Operator} {field : String}
    (first : FirstMalformed cs before op field) :
    Reaches before field d ∧ allHold d cs = .error (.query (.arrayNeeded op field)) ∨
      ¬ Reaches before field d ∧ allHold d cs = .ok false := by
  obtain ⟨none_before, operand, after, rfl, malformed⟩ := first
  obtain ⟨met, checked⟩ := @exists_allHold d before none_before
  cases met with
  | false =>
    have not_met : ¬ Reaches before field d := fun ⟨met, _⟩ => by
      rw [allHold_eq_ok_true_iff.mpr met] at checked
      cases checked
    rw [allHold_append, checked]
    exact .inr ⟨not_met, rfl⟩
  | true =>
    rw [allHold_append, checked, ok_bind, if_pos rfl, allHold, holds_of_malformed malformed]
    have met := allHold_eq_ok_true_iff.mp checked
    cases there : d.contains field with
    | true => exact .inl ⟨⟨met, there⟩, rfl⟩
    | false =>
      refine .inr ⟨fun reaches => ?_, rfl⟩
      rw [reaches.2] at there
      cases there

end Constraint

namespace StoredDocument

variable {cs before : List Constraint}

/-- Without a malformed constraint, documents are selected. -/
theorem exists_select (h : ∀ c ∈ cs, ¬ c.Malformed) (ds : List StoredDocument) :
    ∃ r, select cs ds = .ok r := by
  have filtered : ∃ found, filter cs ds = .ok found := by
    induction ds with
    | nil => exact ⟨[], rfl⟩
    | cons d ds ih =>
      obtain ⟨keep, checked⟩ := @Constraint.exists_allHold d.fields cs h
      obtain ⟨rest, filtered⟩ := ih
      exact ⟨_, bind_eq_ok_iff.mpr ⟨keep, checked, bind_eq_ok_iff.mpr ⟨rest, filtered, rfl⟩⟩⟩
  obtain ⟨found, filtered⟩ := filtered
  exact ⟨_, bind_eq_ok_iff.mpr ⟨found, filtered, rfl⟩⟩

/-- With a malformed constraint, selecting fails if a document reaches the first one, and else selects
nothing. -/
theorem select_of_firstMalformed {op : Operator} {field : String}
    (first : Constraint.FirstMalformed cs before op field) (ds : List StoredDocument) :
    (∃ d ∈ ds, Constraint.Reaches before field d.fields) ∧
        select cs ds = .error (.query (.arrayNeeded op field)) ∨
      (∀ d ∈ ds, ¬ Constraint.Reaches before field d.fields) ∧ select cs ds = .ok [] := by
  have filtered : (∃ d ∈ ds, Constraint.Reaches before field d.fields) ∧
        filter cs ds = .error (.query (.arrayNeeded op field)) ∨
      (∀ d ∈ ds, ¬ Constraint.Reaches before field d.fields) ∧ filter cs ds = .ok [] := by
    induction ds with
    | nil => exact .inr ⟨List.forall_mem_nil _, rfl⟩
    | cons d ds ih =>
      rw [filter]
      rcases @Constraint.allHold_of_firstMalformed d.fields _ _ _ _ first with
        ⟨reaches, checked⟩ | ⟨not_reached, checked⟩
      · rw [checked]
        exact .inl ⟨⟨d, List.mem_cons_self, reaches⟩, rfl⟩
      · rw [checked, ok_bind]
        rcases ih with ⟨⟨e, he, reaches⟩, failed⟩ | ⟨none_reaches, found⟩
        · rw [failed]
          exact .inl ⟨⟨e, List.mem_cons_of_mem _ he, reaches⟩, rfl⟩
        · rw [found]
          exact .inr ⟨List.forall_mem_cons.mpr ⟨not_reached, none_reaches⟩, rfl⟩
  rw [select]
  rcases filtered with ⟨reached, failed⟩ | ⟨not_reached, found⟩
  · rw [failed]
    exact .inl ⟨reached, rfl⟩
  · rw [found, ok_bind, sortBy, List.mergeSort_nil]
    exact .inr ⟨not_reached, rfl⟩

end StoredDocument

/-! ## In a database -/

namespace Filter

variable {c : Constraint} {cs before : List Constraint}

/-- A constraint that is not malformed has a filter. -/
theorem exists_ofConstraint (h : ¬ c.Malformed) : ∃ f, ofConstraint c = .ok f := by
  cases c with
  | orderBy field direction => exact ⟨_, rfl⟩
  | compare field op operand =>
    have translated : ∃ ts, tests op field operand = .ok ts := by
      cases op <;> cases operand <;>
        first
        | exact ⟨_, rfl⟩
        | exact (h ⟨rfl, rfl⟩).elim
    obtain ⟨ts, translated⟩ := translated
    exact ⟨_, bind_eq_ok_iff.mpr ⟨ts, translated, rfl⟩⟩

/-- The translation of a malformed constraint fails with its operator and its field. -/
theorem ofConstraint_of_malformed {op : Operator} {field : String} {operand : Value}
    (h : (Constraint.compare field op operand).Malformed) :
    ofConstraint (.compare field op operand) = .error (.query (.arrayNeeded op field)) := by
  obtain ⟨needs, no_array⟩ := h
  have no_items : operandItems op field operand = .error (.query (.arrayNeeded op field)) := by
    cases operand with
    | array items => cases no_array
    | _ => rfl
  cases op with
  | isIn | notIn | arrayContainsAny =>
    rw [ofConstraint, tests, no_items]
    rfl
  | _ => cases needs

theorem exists_ofConstraints (h : ∀ c ∈ cs, ¬ c.Malformed) : ∃ fs, ofConstraints cs = .ok fs := by
  induction cs with
  | nil => exact ⟨[], rfl⟩
  | cons c cs ih =>
    obtain ⟨first, rest⟩ := List.forall_mem_cons.mp h
    obtain ⟨f, translated⟩ := exists_ofConstraint first
    obtain ⟨fs, others⟩ := ih rest
    exact ⟨f :: fs, bind_eq_ok_iff.mpr ⟨f, translated, bind_eq_ok_iff.mpr ⟨fs, others, rfl⟩⟩⟩

/-- The translation of constraints fails with the first malformed one. -/
theorem ofConstraints_of_firstMalformed {op : Operator} {field : String}
    (first : Constraint.FirstMalformed cs before op field) :
    ofConstraints cs = .error (.query (.arrayNeeded op field)) := by
  obtain ⟨none_before, operand, after, rfl, malformed⟩ := first
  induction before with
  | nil =>
    rw [List.nil_append, ofConstraints, ofConstraint_of_malformed malformed]
    rfl
  | cons b before ih =>
    obtain ⟨head, rest⟩ := List.forall_mem_cons.mp none_before
    obtain ⟨f, translated⟩ := exists_ofConstraint head
    rw [List.cons_append, ofConstraints, translated, ok_bind, ih rest]
    rfl

end Filter

namespace Store

open Constraint (FirstMalformed Reaches)

/-- The first of two is blamed, under the name of its field and not the one it is stored under. -/
example :
    FilterQuery.ofConstraints
        [.orderBy "a" .ascending, .compare "a.b" .notIn .null, .compare "c" .isIn (.boolean true)] =
      .error (.query (.arrayNeeded .notIn "a.b")) := rfl

end Store

end Docstore
