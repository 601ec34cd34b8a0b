import Docstore.Json.Basic
import Docstore.Number.Text
import Docstore.Text.Quoted

/-!
# The text of a JSON value

Compact JSON: no blanks, members in their order, numbers as `NumberStyle.json` writes them, strings
with the fewest escapes JSON allows.
-/

namespace Docstore.Json

mutual

/-- The compact text of a value. -/
def text : Json → String
  | .null => "null"
  | .boolean true => "true"
  | .boolean false => "false"
  | .integer n => toString n
  | .real x => x.text .json
  | .string s => Quoted.json s
  | .array items => "[" ++ ",".intercalate (itemTexts items) ++ "]"
  | .object members => "\x7b" ++ ",".intercalate (memberTexts members) ++ "\x7d"

/-- The texts of the items of an array. -/
def itemTexts : List Json → List String
  | [] => []
  | j :: js => j.text :: itemTexts js

/-- The texts of the members of an object. -/
def memberTexts : Entries Json → List String
  | [] => []
  | (name, j) :: ms => (Quoted.json name ++ ":" ++ j.text) :: memberTexts ms

end

end Docstore.Json
