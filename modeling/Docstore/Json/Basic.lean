import Docstore.Number.Rounding
import Docstore.Table

/-!
# JSON values

The tree of a JSON text. A number keeps the difference that messages show: a literal without point
and exponent is an integer, every other one is a binary64 number. The members of an object stand in
the order of their names, one for each name, which is how the reader and `Json.ofMembers` leave
them.
-/

namespace Docstore

/-- A JSON value. -/
inductive Json where
  | null
  | boolean (b : Bool)
  | integer (n : Int)
  | real (x : Binary64)
  | string (s : String)
  | array (items : List Json)
  | object (members : List (String × Json))
deriving Inhabited

namespace Json

/-- An object of members given in any order; the last of equal names counts. -/
def ofMembers (members : Entries Json) : Json :=
  .object (members.foldl (fun es e => Entries.insert e.1 e.2 es) [])

/-- The value of a member of an object. -/
def member? (name : String) : Json → Option Json
  | .object members => Entries.get? name members
  | _ => none

/-- The binary64 number of a numeric value, the nearest one for a large integer. -/
def number? : Json → Option Binary64
  | .integer n => some (Binary64.ofInt n)
  | .real x => some x
  | _ => none

end Json

end Docstore
