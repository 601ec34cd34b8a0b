import Docstore.Failure
import Docstore.Value.Basic

/-!
# Values in BSON

Every value has a BSON form. A date loses what is finer than a millisecond. Back from BSON come the
forms that values are written in, and the two integer kinds, which become numbers.
-/

namespace Docstore.Value

mutual

/-- The BSON form of a value. -/
def toBson : Value → Bson
  | .null => .null
  | .boolean b => .boolean b
  | .number x => .double x
  | .date t => .date t.millis
  | .string s => .string s
  | .array items => .array (itemsToBson items)

/-- The BSON forms of the items of an array. -/
def itemsToBson : List Value → List Bson
  | [] => []
  | v :: vs => v.toBson :: itemsToBson vs

end

mutual

/-- The value that a BSON value stands for. -/
def ofBson : Bson → Except Failure Value
  | .null => .ok .null
  | .boolean b => .ok (.boolean b)
  | .int32 n => .ok (.number (Binary64.ofInt n.toInt))
  | .int64 n => .ok (.number (Binary64.ofInt n.toInt))
  | .double x => .ok (.number x)
  | .string s => .ok (.string s)
  | .date millis => .ok (.date (Instant.ofMillis millis))
  | .array items => do return .array (← itemsOfBson items)
  | b => .error (.document (.unsupported b))

/-- The values of the items of an array; the first unsupported one is reported. -/
def itemsOfBson : List Bson → Except Failure (List Value)
  | [] => .ok []
  | b :: bs => do
    let v ← ofBson b
    let vs ← itemsOfBson bs
    return v :: vs

end

end Docstore.Value
