/-!
# Operators

The ten ways a constraint compares a field with an operand. Each has a token, which constraints are
written with, and a condition name, which query entries use.
-/

namespace Docstore

/-- How a constraint compares a field with an operand. -/
inductive Operator where
  | equal
  | notEqual
  | greater
  | less
  | greaterOrEqual
  | lessOrEqual
  | isIn
  | notIn
  | arrayContains
  | arrayContainsAny
deriving DecidableEq, Repr

namespace Operator

/-- All operators, in the order in which messages list their names. -/
def all : List Operator :=
  [.equal, .notEqual, .greater, .less, .greaterOrEqual, .lessOrEqual, .isIn, .notIn,
    .arrayContains, .arrayContainsAny]

/-- The token of an operator. -/
def token : Operator → String
  | .equal => "=="
  | .notEqual => "!="
  | .greater => ">"
  | .less => "<"
  | .greaterOrEqual => ">="
  | .lessOrEqual => "<="
  | .isIn => "in"
  | .notIn => "not-in"
  | .arrayContains => "array-contains"
  | .arrayContainsAny => "array-contains-any"

/-- The condition name of an operator. -/
def conditionName : Operator → String
  | .equal => "equals"
  | .notEqual => "notEquals"
  | .greater => "gt"
  | .less => "lt"
  | .greaterOrEqual => "gte"
  | .lessOrEqual => "lte"
  | .isIn => "in"
  | .notIn => "notIn"
  | .arrayContains => "arrayContains"
  | .arrayContainsAny => "arrayContainsAny"

/-- The operator with a token. -/
def ofToken? (token : String) : Option Operator := all.find? (·.token = token)

/-- The operator with a condition name. -/
def ofConditionName? (name : String) : Option Operator := all.find? (·.conditionName = name)

/-- Whether the operand has to be an array of values. -/
def needsArray : Operator → Bool
  | .isIn | .notIn | .arrayContainsAny => true
  | _ => false

theorem mem_all (op : Operator) : op ∈ all := by cases op <;> decide

theorem ofToken?_token (op : Operator) : ofToken? op.token = some op := by
  cases op <;> decide +kernel

theorem ofConditionName?_conditionName (op : Operator) :
    ofConditionName? op.conditionName = some op := by
  cases op <;> decide +kernel

end Operator

end Docstore
