import Docstore.Query.Constraint
import Docstore.Value.Order

/-!
# Selection

Which documents meet constraints, and in which order they come.

A document without the field of a constraint never meets it, whatever the operand; so an operand
that an operator cannot work with is only noticed on a document that has the field and meets all
constraints before. Selected documents come in the order of the sort keys, earlier keys first, and
where these tie in the order they had.
-/

namespace Docstore

/-- Whether an ordering is one that a range operator asks for. -/
def Operator.admits : Operator → Ordering → Bool
  | .greater, o => o == .gt
  | .greaterOrEqual, o => o != .lt
  | .less, o => o == .lt
  | .lessOrEqual, o => o != .gt
  | _, _ => false

/-- Whether a value that is there compares with an operand as an operator asks; `none` when the
operand has to be an array and is not. -/
def Operator.holds? (op : Operator) (v operand : Value) : Option Bool :=
  match op with
  | .equal => some (v.same operand)
  | .notEqual => some (!v.same operand)
  | .greater | .greaterOrEqual | .less | .lessOrEqual =>
    some ((v.compare? operand).any op.admits)
  | .isIn => operand.items?.map fun candidates => Value.hasItem candidates v
  | .notIn => operand.items?.map fun candidates => !Value.hasItem candidates v
  | .arrayContains => some (v.items?.any fun items => Value.hasItem items operand)
  | .arrayContainsAny =>
    operand.items?.map fun candidates =>
      v.items?.any fun items => items.any fun i => Value.hasItem candidates i

namespace Constraint

/-- Whether a document meets a constraint. -/
def holds (d : Document) : Constraint → Except Failure Bool
  | .compare field op operand =>
    match d.get? field with
    | none => .ok false
    | some v =>
      match op.holds? v operand with
      | some b => .ok b
      | none => .error (.query (.arrayNeeded op field))
  | .orderBy field _ => .ok (d.contains field)

/-- Whether a document meets all constraints. The first one it does not meet ends the matter. -/
def allHold (d : Document) : List Constraint → Except Failure Bool
  | [] => .ok true
  | c :: cs => do
    if ← c.holds d then allHold d cs else return false

end Constraint

namespace Document

/-- The value that a document is sorted by; null stands for a field that is not there. -/
def sortValue (d : Document) (field : String) : Value := (d.get? field).getD .null

/-- The order of two documents by sort keys, earlier keys first. -/
def compareBy : List (String × Direction) → Document → Document → Ordering
  | [], _, _ => .eq
  | (field, direction) :: keys, a, b =>
    (direction.apply ((a.sortValue field).totalCompare (b.sortValue field))).then
      (compareBy keys a b)

end Document

namespace StoredDocument

/-- The documents of a list that meet constraints, in its order. A failure on any of them is the
answer for all. -/
def filter (cs : List Constraint) : List StoredDocument → Except Failure (List StoredDocument)
  | [] => .ok []
  | d :: ds => do
    let keep ← Constraint.allHold d.fields cs
    let rest ← filter cs ds
    return if keep then d :: rest else rest

/-- The documents of a list in the order of sort keys. -/
def sortBy (keys : List (String × Direction)) (ds : List StoredDocument) : List StoredDocument :=
  ds.mergeSort fun a b => (Document.compareBy keys a.fields b.fields).isLE

/-- The documents of a list that meet constraints, in the order these ask for. -/
def select (cs : List Constraint) (ds : List StoredDocument) :
    Except Failure (List StoredDocument) := do
  let found ← filter cs ds
  return sortBy (Constraint.sortKeys cs) found

end StoredDocument

end Docstore
