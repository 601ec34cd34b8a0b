import Docstore.Json.Reader
import Docstore.Value.Json

/-!
# Values in text

Reading a value from JSON text. A value that is read but stands for none is reported as such even if
more text follows it; only then does what follows count.
-/

namespace Docstore

/-- Why a text holds no value. -/
inductive TextFault where
  /-- The text is not JSON. -/
  | notJson
  /-- The text is JSON that stands for no value. -/
  | noValue (cause : Failure)

namespace Value

/-- The value in a JSON text. -/
def ofText (s : String) : Except TextFault Value :=
  match Json.readPrefix s with
  | none => .error .notJson
  | some (j, rest) =>
    match ofJson j with
    | .error cause => .error (.noValue cause)
    | .ok v => if (Json.skipBlanks rest).isEmpty then .ok v else .error .notJson

/-- The compact JSON text of a value. -/
def text (v : Value) : String := v.toJson.text

end Value

end Docstore
