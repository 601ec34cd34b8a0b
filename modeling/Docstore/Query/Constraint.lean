import Docstore.Document

/-!
# Constraints

What a store is asked for: the documents whose fields compare with operands in given ways, in an
order given by sort keys.
-/

namespace Docstore

/-- The direction of a sort. -/
inductive Direction where
  | ascending
  | descending
deriving DecidableEq, Repr

namespace Direction

def name : Direction → String
  | .ascending => "asc"
  | .descending => "desc"

/-- The direction with a name. -/
def ofName? (name : String) : Option Direction :=
  if name = "asc" then some .ascending else if name = "desc" then some .descending else none

/-- An ordering seen in a direction. -/
def apply : Direction → Ordering → Ordering
  | .ascending, o => o
  | .descending, o => o.swap

end Direction

/-- One instruction of a query. -/
inductive Constraint where
  /-- Only documents with the field, and with a value there that compares as asked. -/
  | compare (field : String) (op : Operator) (operand : Value)
  /-- Only documents with the field, and in the order of its values. -/
  | orderBy (field : String) (direction : Direction)

namespace Constraint

def field : Constraint → String
  | .compare field _ _ => field
  | .orderBy field _ => field

/-- How a constraint is shown. -/
def text : Constraint → String
  | .compare field op operand =>
    "where(" ++ field ++ " " ++ op.token ++ " " ++ operand.toJson.text ++ ")"
  | .orderBy field direction => "orderBy(" ++ field ++ " " ++ direction.name ++ ")"

/-- The sort keys among constraints, in their order. -/
def sortKeys : List Constraint → List (String × Direction)
  | [] => []
  | .compare _ _ _ :: cs => sortKeys cs
  | .orderBy field direction :: cs => (field, direction) :: sortKeys cs

end Constraint

end Docstore
