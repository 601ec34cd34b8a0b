import Docstore.Schema.Basic

/-!
# Validation

Whether a schema takes a document, and if not, why. The fields of the document are looked at first,
in the order of their names; only when all of them are accepted is a required field missed. The
first reason found is the one given.
-/

namespace Docstore

/-- What a validation makes of a required field that a document does not have. -/
inductive MissingRequired where
  | reject
  | ignore
deriving DecidableEq, Repr

namespace MissingRequired

def name : MissingRequired → String
  | .reject => "reject"
  | .ignore => "ignore"

end MissingRequired

/-- Why a field does not take a value that is there. -/
def Field.refusalOf? (f : Field) (name : String) (v : Value) : Option Rejection :=
  if v.isNull then
    if f.nullable then none else some (.nullNotAllowed name)
  else match f.type with
    | .custom token => some (.unsupportedType token name)
    | type => if type.holds v then none else some (.wrongType name type.name)

/-- Why a field does not take what a document gives it: a value, or nothing. -/
def Field.refusal? (f : Field) (name : String) : Option Value → Option Rejection
  | some v => f.refusalOf? name v
  | none => if f.required then some (.required name) else none

namespace Schema

/-- Why a schema does not take one entry of a document. -/
def entryRefusal? (s : Schema) (e : String × Value) : Option Rejection :=
  match s.get? e.1 with
  | none => some .unknownField
  | some f => f.refusalOf? e.1 e.2

/-- Why a schema misses a field of its own in a document. -/
def missingRefusal? (d : Document) (e : String × Field) : Option Rejection :=
  if e.2.required && !d.contains e.1 then some (.required e.1) else none

/-- Why a schema does not take a document. -/
def refusal? (s : Schema) (missing : MissingRequired) (d : Document) : Option Rejection :=
  (d.entries.findSome? s.entryRefusal?).or
    (match missing with
    | .reject => s.entries.findSome? (missingRefusal? d)
    | .ignore => none)

/-- Lets a document through that the schema takes. -/
def validate (s : Schema) (missing : MissingRequired) (d : Document) : Except Failure Unit :=
  match s.refusal? missing d with
  | none => .ok ()
  | some reason => .error (.validation reason)

end Schema

end Docstore
