import Docstore.Json.Shape

/-!
# A choice between names in JSON

A choice is written as one of the known names, or as an object with that name as its only member and
null as the value.
-/

namespace Docstore.Json

/-- What a name chooses. -/
def chosen (known : List (String × α)) (name : String) : Except ShapeFault α :=
  match known.lookup name with
  | some a => .ok a
  | none => .error (.unknownName name (known.map Prod.fst))

/-- What a JSON value chooses. -/
def choice (known : List (String × α)) : Json → Except ShapeFault α
  | .string name => chosen known name
  | .object [(name, content)] => do
    let a ← chosen known name
    match content with
    | .null => return a
    | j => throw (.wrongKind j "unit")
  | .object _ => .error .notOneMember
  | j => .error (.wrongKind j "string or map")

end Docstore.Json
