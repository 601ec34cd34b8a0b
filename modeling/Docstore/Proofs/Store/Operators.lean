import Docstore.Proofs.Bson.ArrayOrder
import Docstore.Proofs.Store.Ranges
import Docstore.Proofs.Value.Equality

/-!
# Laws of operators

The ten operators are ten checks, each written for itself. Between what they find there are laws
(`OperatorAlgebra`): a negation finds the rest of what has the field, a comparison with several values
finds what the comparisons with each of them find, and the range operators and equality divide what has
the operand's kind among them.

They are laws of single values (`Operator.relates_algebra`). A collection lists for a comparison the
stored documents with a value that stands to the operand as asked (`Store.finds_iff`), so they hold for
every field of every collection, too (`Store.finds_algebra`).
-/

namespace Docstore

/-- Laws between the operators, each used with any operand it can work with: which of them find one
document or value. `present` says whether there is something to be compared at all. -/
structure OperatorAlgebra (finds : Operator → Value → Prop) (present : Prop) : Prop where
  equal_or_notEqual (v : Value) : finds .equal v ∨ finds .notEqual v ↔ present
  not_equal_and_notEqual (v : Value) : ¬ (finds .equal v ∧ finds .notEqual v)
  isIn_or_notIn (vs : List Value) : finds .isIn (.array vs) ∨ finds .notIn (.array vs) ↔ present
  not_isIn_and_notIn (vs : List Value) : ¬ (finds .isIn (.array vs) ∧ finds .notIn (.array vs))
  isIn_iff (vs : List Value) : finds .isIn (.array vs) ↔ ∃ v ∈ vs, finds .equal v
  arrayContainsAny_iff (vs : List Value) :
    finds .arrayContainsAny (.array vs) ↔ ∃ v ∈ vs, finds .arrayContains v
  greaterOrEqual_iff {v : Value} (scalar : v.IsScalar) :
    finds .greaterOrEqual v ↔ finds .greater v ∨ finds .equal v
  lessOrEqual_iff {v : Value} (scalar : v.IsScalar) :
    finds .lessOrEqual v ↔ finds .less v ∨ finds .equal v
  not_greater_and_equal (v : Value) : ¬ (finds .greater v ∧ finds .equal v)
  not_less_and_equal (v : Value) : ¬ (finds .less v ∧ finds .equal v)
  not_greater_and_less (v : Value) : ¬ (finds .greater v ∧ finds .less v)
  /-- Null and arrays have no range. -/
  not_range {op : Operator} {v : Value} (range : op.isRange = true) (no_scalar : ¬ v.IsScalar) :
    ¬ finds op v

/-- Where there is nothing to compare, nothing is found. -/
theorem OperatorAlgebra.absent : OperatorAlgebra (fun _ _ => False) False := by
  constructor <;> simp

/-! ## Values -/

theorem Value.isScalar_of_compare? {v operand : Value} {o : Ordering}
    (h : v.compare? operand = some o) : operand.IsScalar := by
  cases operand with
  | null | array _ => cases v <;> cases h
  | _ => exact ⟨rfl, rfl⟩

namespace Operator

variable {op : Operator} {v operand : Value} {vs : List Value}

theorem relates_isIn_iff : isIn.Relates v (.array vs) ↔ ∃ w ∈ vs, equal.Relates v w := by
  simp [Relates, Value.same_comm v]

theorem relates_notIn_iff : notIn.Relates v (.array vs) ↔ ¬ isIn.Relates v (.array vs) := by
  simp [Relates]

theorem relates_arrayContainsAny_iff :
    arrayContainsAny.Relates v (.array vs) ↔ ∃ w ∈ vs, arrayContains.Relates v w := by
  constructor
  · rintro ⟨items, _, rfl, ⟨⟩, i, hi, w, hw, same⟩
    exact ⟨w, hw, items, rfl, i, hi, Value.same_comm w i ▸ same⟩
  · rintro ⟨w, hw, items, rfl, i, hi, same⟩
    exact ⟨items, vs, rfl, rfl, i, hi, w, hw, Value.same_comm i w ▸ same⟩

/-- Only scalars have a range. -/
theorem isScalar_of_relates (range : op.isRange = true) (h : op.Relates v operand) :
    operand.IsScalar := by
  obtain ⟨_, compared, -⟩ := (Option.any_eq_true _ _).mp ((relates_iff_of_isRange range).mp h)
  exact Value.isScalar_of_compare? compared

/-- Equality is the place between above and below. -/
theorem relates_equal_iff (scalar : operand.IsScalar) :
    equal.Relates v operand ↔ v.compare? operand = some .eq :=
  Value.same_iff_compare? scalar

theorem relates_algebra (v : Value) :
    OperatorAlgebra (fun op operand => op.Relates v operand) True where
  equal_or_notEqual operand := iff_true_intro (Classical.em (equal.Relates v operand))
  not_equal_and_notEqual operand := and_not_self
  isIn_or_notIn vs := by
    rw [relates_notIn_iff]
    exact iff_true_intro (Classical.em (isIn.Relates v (.array vs)))
  not_isIn_and_notIn vs := by
    rw [relates_notIn_iff]
    exact and_not_self
  isIn_iff vs := relates_isIn_iff
  arrayContainsAny_iff vs := relates_arrayContainsAny_iff
  greaterOrEqual_iff scalar := by
    rw [relates_equal_iff scalar]
    exact Iff.rfl
  lessOrEqual_iff scalar := by
    rw [relates_equal_iff scalar]
    exact Iff.rfl
  not_greater_and_equal operand := by
    rintro ⟨above, same⟩
    have level := (relates_equal_iff (isScalar_of_relates rfl above)).mp same
    exact nomatch above.symm.trans level
  not_less_and_equal operand := by
    rintro ⟨below, same⟩
    have level := (relates_equal_iff (isScalar_of_relates rfl below)).mp same
    exact nomatch below.symm.trans level
  not_greater_and_less operand := by
    rintro ⟨above, below⟩
    exact nomatch above.symm.trans below
  not_range range no_scalar h := no_scalar (isScalar_of_relates range h)

end Operator

/-! ## Listings -/

/-- An operand to which a value can stand as asked is one that the operator can work with. -/
theorem Constraint.not_malformed_of_relates {field : String} {op : Operator} {v operand : Value}
    (h : op.Relates v operand) : ¬ (Constraint.compare field op operand).Malformed := by
  intro malformed
  have holds := Operator.holds?_eq_some_true_iff.mpr h
  rw [Operator.holds?_eq_none_iff.mpr malformed] at holds
  cases holds

namespace Store

variable {s : Store} {collection field : String} {op : Operator} {operand : Value}
  {x : StoredDocument}

/-- A collection lists a document when asked for those that meet a comparison. -/
def Finds (s : Store) (collection field : String) (op : Operator) (operand : Value)
    (x : StoredDocument) : Prop :=
  ∃ r, (∀ fresh, (answer fresh (.list collection [.compare field op operand]) s).1 = .ok r) ∧ x ∈ r

theorem exists_answer (fine : ¬ (Constraint.compare field op operand).Malformed) (s : Store)
    (collection : String) :
    ∃ r, ∀ fresh, (answer fresh (.list collection [.compare field op operand]) s).1 = .ok r := by
  obtain ⟨r, selected⟩ := StoredDocument.exists_select (List.forall_mem_singleton.mpr fine)
    (s.stored collection)
  exact ⟨r, fun _ => selected⟩

/-- What is listed for a comparison are the stored documents whose value there stands to the operand as
asked. -/
theorem finds_iff : s.Finds collection field op operand x ↔
    x ∈ s.stored collection ∧ ∃ v, x.fields.get? field = some v ∧ op.Relates v operand := by
  have mem_iff {r : List StoredDocument}
      (answered : ∀ fresh, (answer fresh (.list collection [.compare field op operand]) s).1 = .ok r) :
      x ∈ r ↔ x ∈ s.stored collection ∧ (Constraint.compare field op operand).Met x.fields := by
    rw [(listing_of_select (answered "")).mem_iff, mem_stored_iff, List.forall_mem_singleton]
  constructor
  · rintro ⟨r, answered, there⟩
    exact (mem_iff answered).mp there
  · rintro ⟨stored, v, found, relates⟩
    obtain ⟨r, answered⟩ :=
      exists_answer (Constraint.not_malformed_of_relates relates) s collection
    exact ⟨r, answered, (mem_iff answered).mpr ⟨stored, v, found, relates⟩⟩

end Store

end Docstore
