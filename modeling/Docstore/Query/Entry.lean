import Docstore.Json.Choice
import Docstore.Query.Constraint

/-!
# Query entries

The form in which callers write queries: a list of entries, each of which filters on a field or
sorts by it. A sort is directed by a name or by a number, of which only 1 and -1 mean anything; that
is found out when the query is translated into constraints, not when it is read.

In JSON a filter is either an object with the members `condition`, `field` and `value`, or an object
whose only member names the field and holds the other two. A sort is an object whose only member
names the field and holds the direction.
-/

namespace Docstore

/-- The direction of a sort as a caller gives it. -/
inductive SortOrder where
  | numeric (x : Binary64)
  | named (direction : Direction)

namespace SortOrder

/-- The direction that is meant: 1 is ascending and -1 is descending. -/
def direction : SortOrder → Except Failure Direction
  | .named direction => .ok direction
  | .numeric x =>
    if x.sameValue (Binary64.ofInt 1) then .ok .ascending
    else if x.sameValue (Binary64.ofInt (-1)) then .ok .descending
    else .error (.query (.sortNumber x))

end SortOrder

/-- One entry of a query. -/
inductive QueryEntry where
  | filter (field : String) (condition : Operator) (operand : Value)
  | sort (field : String) (order : SortOrder)

namespace QueryEntry

def field : QueryEntry → String
  | .filter field _ _ => field
  | .sort field _ => field

/-- The constraint that an entry stands for. -/
def constraint : QueryEntry → Except Failure Constraint
  | .filter field condition operand => .ok (.compare field condition operand)
  | .sort field order => do return .orderBy field (← order.direction)

/-! ## Reading -/

def conditionKey : String := "condition"

def fieldKey : String := "field"

def valueKey : String := "value"

/-- The conditions and their names. -/
def conditions : List (String × Operator) := Operator.all.map fun op => (op.conditionName, op)

/-- A filter on a field, from its condition and from the members around it. A value that is not there
is null. -/
def filterOfMembers (field : String) (condition : Json) (members : Entries Json) :
    Except Failure QueryEntry := do
  let op ← match Json.choice conditions condition with
    | .ok op => pure op
    | .error fault => throw (.query (.unknownCondition field fault))
  let operand ← Value.ofJson ((Entries.get? valueKey members).getD .null)
  return .filter field op operand

/-- The direction of a sort from JSON. -/
def orderOfJson (j : Json) : Except Failure SortOrder :=
  match j with
  | .string name =>
    match Direction.ofName? name with
    | some direction => .ok (.named direction)
    | none => .error (.query (.sortName name))
  | j =>
    match j.number? with
    | some x => .ok (.numeric x)
    | none => .error (.query (.sortValue j))

/-- An entry that names its field by its only member. -/
def ofFieldMember (field : String) (j : Json) : Except Failure QueryEntry :=
  match j.member? conditionKey, j with
  | some condition, .object members => filterOfMembers field condition members
  | _, j => do return .sort field (← orderOfJson j)

/-- An entry from the members of an object. -/
def ofMembers (members : Entries Json) : Except Failure QueryEntry :=
  match Entries.get? conditionKey members with
  | some condition =>
    match Entries.get? fieldKey members with
    | some (.string field) => filterOfMembers field condition members
    | _ => .error (.query .fieldMissing)
  | none =>
    match members with
    | [(field, j)] => ofFieldMember field j
    | _ => .error (.query (.fieldCount members.length))

/-- The entry that a JSON value stands for. -/
def ofJson : Json → Except Failure QueryEntry
  | .object members => ofMembers members
  | j => .error (.query (.entryNotObject j))

end QueryEntry

/-- A query: entries in the order in which they count. -/
abbrev Query := List QueryEntry

namespace Query

/-- The constraints that a query stands for, one for each entry; the first entry that stands for none
is reported. -/
def constraints : Query → Except Failure (List Constraint)
  | [] => .ok []
  | e :: es => do
    let c ← e.constraint
    let cs ← constraints es
    return c :: cs

/-- Reads entries one after another; the first bad one is reported. -/
def ofItems : List Json → Except Failure Query
  | [] => .ok []
  | j :: js => do
    let e ← QueryEntry.ofJson j
    let es ← ofItems js
    return e :: es

/-- The query that a JSON array stands for. -/
def ofJson : Json → Except Failure Query
  | .array items => ofItems items
  | j => .error (.query (.notArray j))

end Query

end Docstore
