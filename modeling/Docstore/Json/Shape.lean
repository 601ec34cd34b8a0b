import Docstore.Json.Text

/-!
# JSON of a fixed shape

Readers of schemas, options, conditions and records expect JSON of a certain shape. `ShapeFault`
says how a JSON value departs from it, and `ShapeFault.message` words it.
-/

namespace Docstore

/-- How a JSON value departs from an expected shape. -/
inductive ShapeFault where
  /-- A value of the wrong kind. -/
  | wrongKind (found : Json) (expected : String)
  /-- A value of the right kind that is not among the expected ones. -/
  | wrongValue (found : Json) (expected : String)
  /-- A name that is not among the known ones. -/
  | unknownName (name : String) (known : List String)
  /-- An object with no member or several, where one names a choice. -/
  | notOneMember
  /-- An array with too many items. -/
  | tooManyItems (count : Nat)
  /-- A field that is none of the forms a schema knows. -/
  | noFieldForm
  /-- An object without a member it needs. -/
  | missingField (name : String)
  /-- A value of a kind other than a date. -/
  | notDate (kind : String)

namespace Json

/-- What a message calls a value: its kind, and for scalars the value itself. -/
def described : Json → String
  | .null => "null"
  | .boolean b => "boolean \x60" ++ toString b ++ "\x60"
  | .integer n => "integer \x60" ++ toString n ++ "\x60"
  | .real x => "floating point \x60" ++ x.text .json ++ "\x60"
  | .string s => "string " ++ Quoted.shown s
  | .array _ => "sequence"
  | .object _ => "map"

end Json

namespace ShapeFault

/-- A name between grave accents. -/
def marked (name : String) : String := "\x60" ++ name ++ "\x60"

/-- A choice between names: two are joined by a word, more are listed. -/
def choice (known : List String) : String :=
  match known with
  | [] => "nothing"
  | [a] => marked a
  | [a, b] => marked a ++ " or " ++ marked b
  | known => "one of " ++ ", ".intercalate (known.map marked)

def message : ShapeFault → String
  | .wrongKind found expected => "invalid type: " ++ found.described ++ ", expected " ++ expected
  | .wrongValue found expected => "invalid value: " ++ found.described ++ ", expected " ++ expected
  | .unknownName name known => "unknown variant " ++ marked name ++ ", expected " ++ choice known
  | .notOneMember => "invalid value: map, expected map with a single key"
  | .tooManyItems count =>
    "invalid length " ++ toString count ++ ", expected fewer elements in array"
  | .noFieldForm => "data did not match any variant of untagged enum FieldDescriptor"
  | .missingField name => "missing field " ++ marked name
  | .notDate kind => "expected a date, found " ++ kind

end ShapeFault

end Docstore
