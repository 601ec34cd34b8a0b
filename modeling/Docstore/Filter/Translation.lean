import Docstore.Bson.FieldName
import Docstore.Filter.Basic
import Docstore.Query.Constraint
import Docstore.Value.Bson

/-!
# Constraints as filters

How constraints are put to a document database, so that it selects what `StoredDocument.select`
does. The database differs in two ways that the filters make up for. It holds a comparison with a
scalar against each item of an array too, so comparisons with scalars leave arrays out, and their
negations let arrays through. And it takes a field that is not there for unequal to anything, so
negations ask for the field to be there.
-/

namespace Docstore

/-- What a database is asked for: a filter, and the stored names to sort by. -/
structure FilterQuery where
  filter : Filter
  sort : List (String × Direction)

namespace Filter

/-- The items of an operand that has to be an array. -/
def operandItems (op : Operator) (name : String) (operand : Value) : Except Failure (List Bson) :=
  match operand with
  | .array items => .ok (Value.itemsToBson items)
  | _ => .error (.query (.arrayNeeded op name))

/-- Whether a comparison is with scalars only: the database then tries the items of an array too. -/
def comparesScalars (op : Operator) (operand : Value) : Bool :=
  match op, operand with
  | .isIn, .array items => !items.any Value.isArray
  | .notIn, .array items => !items.any Value.isArray
  | _, operand => !operand.isArray

/-- The tests that an operator stands for. -/
def tests (op : Operator) (name : String) (operand : Value) : Except Failure (List Test) :=
  let b := operand.toBson
  match op with
  | .equal => .ok [.equal b]
  | .notEqual => .ok [.present, .notEqual b]
  | .greater => .ok [.greater b]
  | .greaterOrEqual => .ok [.greaterOrEqual b]
  | .less => .ok [.less b]
  | .lessOrEqual => .ok [.lessOrEqual b]
  | .isIn => do return [.isIn (← operandItems op name operand)]
  | .notIn => do return [.present, .notIn (← operandItems op name operand)]
  | .arrayContains => .ok [.itemEqual b]
  | .arrayContainsAny => do return [.itemIn (← operandItems op name operand)]

/-- A comparison as a filter on a stored field. -/
def ofTests (op : Operator) (operand : Value) (name : String) (tests : List Test) : Filter :=
  match op with
  | .arrayContains | .arrayContainsAny => .field name tests
  | .notEqual | .notIn =>
    if comparesScalars op operand then
      .anyOf [.field name [.isArray], .field name tests]
    else .field name tests
  | _ =>
    if comparesScalars op operand then .field name (tests ++ [.notArray]) else .field name tests

/-- The filter that a constraint stands for. A sort key asks for its field to be there. -/
def ofConstraint : Constraint → Except Failure Filter
  | .compare name op operand => do
    return ofTests op operand (FieldName.escape name) (← tests op name operand)
  | .orderBy name _ => .ok (.field (FieldName.escape name) [.present])

/-- The filters that constraints stand for; the first constraint that stands for none is reported. -/
def ofConstraints : List Constraint → Except Failure (List Filter)
  | [] => .ok []
  | c :: cs => do
    let f ← ofConstraint c
    let fs ← ofConstraints cs
    return f :: fs

/-- Joins filters that all have to hold. -/
def conjunction : List Filter → Filter
  | [] => .everything
  | [f] => f
  | fs => .allOf fs

end Filter

namespace FilterQuery

/-- The stored names to sort by. A name that comes again keeps its place and changes direction. -/
def sortNames (cs : List Constraint) : List (String × Direction) :=
  (Constraint.sortKeys cs).foldl (fun names k => Entries.put (FieldName.escape k.1) k.2 names) []

/-- Constraints as they are put to a document database. -/
def ofConstraints (cs : List Constraint) : Except Failure FilterQuery := do
  let filters ← Filter.ofConstraints cs
  return ⟨Filter.conjunction filters, sortNames cs⟩

/-- The direction of a sort as the database writes it. -/
def directionBson : Direction → Bson
  | .ascending => .int32 1
  | .descending => .int32 (-1)

/-- The sort document, if there is anything to sort by. -/
def sortBson? (q : FilterQuery) : Option BsonDocument :=
  if q.sort.isEmpty then none else some (q.sort.map fun e => (e.1, directionBson e.2))

end FilterQuery

end Docstore
