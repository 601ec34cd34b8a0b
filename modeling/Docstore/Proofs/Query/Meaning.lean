import Docstore.Proofs.Result
import Docstore.Query.Selection

/-!
# What constraints say

`Constraint.holds` checks a constraint, and can fail. `Constraint.Met` says what the constraint asks
for, without the check: a comparison asks for a field whose value stands in the relation of its
operator to the operand (`Operator.Relates`), a sort key for a field that is there. A check that is
answered at all is answered as the constraint says (`Constraint.holds_eq_ok_true_iff`), and so is the
check of a whole list, however early it ends.
-/

namespace Docstore

/-- What an operator asks of a value and an operand. -/
def Operator.Relates (op : Operator) (v operand : Value) : Prop :=
  match op with
  | .equal => v.same operand
  | .notEqual => ¬ v.same operand
  | .greater => v.compare? operand = some .gt
  | .greaterOrEqual => v.compare? operand = some .gt ∨ v.compare? operand = some .eq
  | .less => v.compare? operand = some .lt
  | .lessOrEqual => v.compare? operand = some .lt ∨ v.compare? operand = some .eq
  | .isIn => ∃ candidates, operand = .array candidates ∧ ∃ c ∈ candidates, c.same v
  | .notIn => ∃ candidates, operand = .array candidates ∧ ∀ c ∈ candidates, ¬ c.same v
  | .arrayContains => ∃ items, v = .array items ∧ ∃ i ∈ items, i.same operand
  | .arrayContainsAny =>
    ∃ items candidates, v = .array items ∧ operand = .array candidates ∧
      ∃ i ∈ items, ∃ c ∈ candidates, c.same i

theorem Value.items?_eq_some_iff {v : Value} {items : List Value} :
    v.items? = some items ↔ v = .array items := by
  cases v <;> simp [items?]

theorem Operator.holds?_eq_some_true_iff {op : Operator} {v operand : Value} :
    op.holds? v operand = some true ↔ op.Relates v operand := by
  cases op with
  | equal | notEqual => simp [holds?, Relates]
  | greater | greaterOrEqual | less | lessOrEqual =>
    cases place : v.compare? operand with
    | none => simp [holds?, Relates, place]
    | some o => cases o <;> simp [holds?, Relates, admits, place]
  | isIn | notIn | arrayContains =>
    simp [holds?, Relates, Value.items?_eq_some_iff, Value.hasItem, Option.any_eq_true]
  | arrayContainsAny =>
    simp only [holds?, Relates, Value.hasItem, Option.map_eq_some_iff, Value.items?_eq_some_iff,
      Option.any_eq_true, List.any_eq_true]
    constructor
    · rintro ⟨candidates, rfl, items, rfl, found⟩
      exact ⟨items, candidates, rfl, rfl, found⟩
    · rintro ⟨items, candidates, rfl, rfl, found⟩
      exact ⟨candidates, rfl, items, rfl, found⟩

namespace Constraint

/-- What a constraint asks of a document. -/
def Met (d : Document) : Constraint → Prop
  | .compare field op operand => ∃ v, d.get? field = some v ∧ op.Relates v operand
  | .orderBy field _ => ∃ v, d.get? field = some v

variable {d : Document}

theorem holds_eq_ok_true_iff {c : Constraint} : c.holds d = .ok true ↔ c.Met d := by
  cases c with
  | compare field op operand =>
    rw [holds, Met]
    cases d.get? field with
    | none => simp
    | some v =>
      simp only [Option.some.injEq, exists_eq_left', ← Operator.holds?_eq_some_true_iff]
      cases op.holds? v operand <;> simp
  | orderBy field direction => simp [holds, Met, Table.contains, Option.isSome_iff_exists]

/-- A document meets constraints when it meets the first and the others. -/
theorem allHold_cons_iff {c : Constraint} {cs : List Constraint} :
    allHold d (c :: cs) = .ok true ↔ holds d c = .ok true ∧ allHold d cs = .ok true := by
  rw [allHold, bind_eq_ok_iff]
  constructor
  · rintro ⟨b, first, rest⟩
    cases b with
    | true => exact ⟨first, rest⟩
    | false => cases rest
  · rintro ⟨first, rest⟩
    exact ⟨true, first, rest⟩

/-- Constraints are checked one after another, as long as they are met. -/
theorem allHold_append (cs ds : List Constraint) :
    allHold d (cs ++ ds) = (do if ← allHold d cs then allHold d ds else return false) := by
  induction cs with
  | nil => rfl
  | cons c cs ih =>
    rw [List.cons_append, allHold, allHold, ih]
    cases c.holds d with
    | error failure => rfl
    | ok met => cases met <;> rfl

theorem allHold_eq_ok_true_iff {cs : List Constraint} :
    allHold d cs = .ok true ↔ ∀ c ∈ cs, c.Met d := by
  induction cs with
  | nil => simp [allHold]
  | cons c cs ih => rw [allHold_cons_iff, holds_eq_ok_true_iff, ih, List.forall_mem_cons]

/-! ## Sort keys -/

theorem sortKeys_append (cs ds : List Constraint) :
    sortKeys (cs ++ ds) = sortKeys cs ++ sortKeys ds := by
  induction cs with
  | nil => rfl
  | cons c cs ih =>
    cases c with
    | compare field op operand => exact ih
    | orderBy field direction => exact congrArg ((field, direction) :: ·) ih

theorem mem_sortKeys_iff {cs : List Constraint} {field : String} {direction : Direction} :
    (field, direction) ∈ sortKeys cs ↔ .orderBy field direction ∈ cs := by
  induction cs with
  | nil => simp [sortKeys]
  | cons c cs ih => cases c <;> simp [sortKeys, ih]

end Constraint

/-! ## Selection -/

namespace StoredDocument

/-- Filtering keeps the order, and keeps what meets the constraints. -/
theorem filter_eq_ok {cs : List Constraint} {ds r : List StoredDocument} (h : filter cs ds = .ok r) :
    r.Sublist ds ∧ ∀ x, x ∈ r ↔ x ∈ ds ∧ ∀ c ∈ cs, c.Met x.fields := by
  induction ds generalizing r with
  | nil =>
    cases h
    exact ⟨.slnil, fun x => by simp⟩
  | cons d ds ih =>
    obtain ⟨keep, checked, h⟩ := bind_eq_ok_iff.mp h
    obtain ⟨rest, filtered, h⟩ := bind_eq_ok_iff.mp h
    obtain ⟨sub, mem_rest⟩ := ih filtered
    have kept_iff : keep = true ↔ ∀ c ∈ cs, c.Met d.fields := by
      rw [← Constraint.allHold_eq_ok_true_iff, checked, Except.ok.injEq]
    cases h
    have mem_kept (x) : x ∈ (if keep then d :: rest else rest) ↔ x = d ∧ keep = true ∨ x ∈ rest := by
      cases keep <;> simp
    refine ⟨?_, fun x => ?_⟩
    · cases keep with
      | true => exact sub.cons_cons d
      | false => exact sub.cons d
    · rw [mem_kept, mem_rest, kept_iff, List.mem_cons]
      constructor
      · rintro (⟨rfl, met⟩ | ⟨there, met⟩)
        · exact ⟨.inl rfl, met⟩
        · exact ⟨.inr there, met⟩
      · rintro ⟨rfl | there, met⟩
        · exact .inl ⟨rfl, met⟩
        · exact .inr ⟨there, met⟩

end StoredDocument

end Docstore
