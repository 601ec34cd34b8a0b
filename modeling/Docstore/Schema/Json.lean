import Docstore.Schema.Basic

/-!
# Schemas in JSON

A schema is written as an object with a member for each field. A bare field is the token of its
type. A structured field is an object of its attributes, of which only the type has to be there; it
may also be an array of them, cut off anywhere after the type.

Writing gives every attribute, except a default or a reference that a field does not have. A default
of null reads as no default.
-/

namespace Docstore

namespace FieldSpec

/-- The attributes of a structured field as they are read. -/
def attributeNames : List String := ["type", "required", "nullable", "default", "ref"]

def typeOfJson? : Json → Option FieldType
  | .string token => some (.ofToken token)
  | _ => none

def flagOfJson? : Json → Option Bool
  | .boolean b => some b
  | _ => none

/-- A default: null stands for none. -/
def defaultOfJson? : Json → Option (Option Value)
  | .null => some none
  | j => (Value.ofJson j).toOption.map some

/-- A reference: null stands for none. -/
def refOfJson? : Json → Option (Option String)
  | .null => some none
  | .string name => some (some name)
  | _ => none

/-- An attribute that may be left out. -/
def optional (absent : α) (read : Json → Option α) : Option Json → Option α
  | none => some absent
  | some j => read j

/-- A structured field from the JSON of its attributes. -/
def ofAttributes? (type : Json) (required nullable default ref : Option Json) :
    Option FieldSpec := do
  let type ← typeOfJson? type
  let required ← optional false flagOfJson? required
  let nullable ← optional false flagOfJson? nullable
  let default ← optional none defaultOfJson? default
  let ref ← optional none refOfJson? ref
  return ⟨type, required, nullable, default, ref⟩

/-- A structured field from an object or an array of its attributes. -/
def ofJson? : Json → Option FieldSpec
  | .object members =>
    if members.all fun m => attributeNames.contains m.1 then do
      let type ← Entries.get? "type" members
      ofAttributes? type (Entries.get? "required" members) (Entries.get? "nullable" members)
        (Entries.get? "default" members) (Entries.get? "ref" members)
    else none
  | .array [type] => ofAttributes? type none none none none
  | .array [type, required] => ofAttributes? type required none none none
  | .array [type, required, nullable] => ofAttributes? type required nullable none none
  | .array [type, required, nullable, default] =>
    ofAttributes? type required nullable default none
  | .array [type, required, nullable, default, ref] =>
    ofAttributes? type required nullable default ref
  | _ => none

/-- The members of the object that a structured field is written as, in the order of their names. -/
def toMembers (spec : FieldSpec) : Entries Json :=
  (match spec.default? with
    | some v => [("default", v.toJson)]
    | none => [])
  ++ [("nullable", .boolean spec.nullable)]
  ++ (match spec.ref? with
    | some name => [("ref", .string name)]
    | none => [])
  ++ [("required", .boolean spec.required), ("type", .string spec.type.token)]

end FieldSpec

namespace Field

/-- The declaration that a JSON value stands for. -/
def ofJson : Json → Except Failure Field
  | .string token => .ok (.bare (.ofToken token))
  | j => match FieldSpec.ofJson? j with
    | some spec => .ok (.structured spec)
    | none => .error (.shape .noFieldForm)

def toJson : Field → Json
  | .bare type => .string type.token
  | .structured spec => .object spec.toMembers

end Field

namespace Schema

/-- Reads members one after another into a schema; the first bad one is reported. -/
def readMembers : Entries Json → Schema → Except Failure Schema
  | [], s => .ok s
  | (name, j) :: ms, s => do
    let f ← Field.ofJson j
    readMembers ms (s.insert name f)

/-- The schema that a JSON object stands for. -/
def ofJson : Json → Except Failure Schema
  | .object members => readMembers members ∅
  | j => .error (.shape (.wrongKind j "a map"))

/-- The JSON form of a schema. -/
def toJson (s : Schema) : Json := .object (s.map Field.toJson).entries

end Schema

end Docstore
