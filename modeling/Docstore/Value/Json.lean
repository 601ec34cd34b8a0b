import Docstore.Failure
import Docstore.Value.Basic

/-!
# Values in JSON

A date is written as an object with the one member `$date`, in UTC with milliseconds; everything
else has a JSON form of its own. A number without fractional part is written as an integer as long
as every integer up to it has a number of its own, and a number that JSON cannot hold is written as
a null.
-/

namespace Docstore.Value

/-- The name of the member that marks a date. -/
def dateKey : String := "$date"

/-- Up to this magnitude every integer is a binary64 number, and so is its successor. -/
def largestExactInteger : Nat := 9007199254740991

/-- The JSON form of a number. -/
def numberJson (x : Binary64) : Json :=
  match x.toInt? with
  | some n => if n.natAbs ≤ largestExactInteger then .integer n else .real x
  | none => if x.isFinite then .real x else .null

/-- The JSON form of a date. -/
def dateJson (t : Instant) : Json := .object [(dateKey, .string (Rfc3339.text 3 t))]

mutual

/-- The JSON form of a value. -/
def toJson : Value → Json
  | .null => .null
  | .boolean b => .boolean b
  | .number x => numberJson x
  | .date t => dateJson t
  | .string s => .string s
  | .array items => .array (itemsToJson items)

/-- The JSON forms of the items of an array. -/
def itemsToJson : List Value → List Json
  | [] => []
  | v :: vs => v.toJson :: itemsToJson vs

end

/-- The date in a text. -/
def dateOfText (raw : String) : Except Failure Value :=
  match Rfc3339.read raw with
  | .ok t => .ok (.date t)
  | .error fault => .error (.document (.badDate raw fault))

mutual

/-- The value that a JSON value stands for. An object has to be a date. -/
def ofJson : Json → Except Failure Value
  | .null => .ok .null
  | .boolean b => .ok (.boolean b)
  | .integer n => .ok (.number (Binary64.ofInt n))
  | .real x => .ok (.number x)
  | .string s => .ok (.string s)
  | .array items => do return .array (← itemsOfJson items)
  | .object [(name, .string raw)] =>
    if name = dateKey then dateOfText raw else .error (.document .nestedObject)
  | .object _ => .error (.document .nestedObject)

/-- The values of the items of an array; the first bad one is reported. -/
def itemsOfJson : List Json → Except Failure (List Value)
  | [] => .ok []
  | j :: js => do
    let v ← ofJson j
    let vs ← itemsOfJson js
    return v :: vs

end

end Docstore.Value
