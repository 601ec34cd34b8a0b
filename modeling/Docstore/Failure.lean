import Docstore.Bson.Text
import Docstore.Json.Shape
import Docstore.Query.Operator
import Docstore.Time.Rfc3339

/-!
# Failures

Everything that can go wrong, as data: a failure holds its cause, and `Failure.message` is the one
place that words it. `Failure.kind` sorts failures into the eight kinds that callers tell apart.
-/

namespace Docstore

/-- Why a model cannot be named, registered or used. -/
inductive ConfigurationFault where
  | nameMissing
  | schemaMissing
  /-- A model that has a name is given another one. -/
  | alreadyNamed (newName : String)
deriving DecidableEq, Repr

namespace ConfigurationFault

def message : ConfigurationFault → String
  | .nameMissing => "Model name is required"
  | .schemaMissing => "Schema is required"
  | .alreadyNamed newName => "Model is already named, cannot rename to " ++ newName

end ConfigurationFault

/-- Why a document is refused by a schema. -/
inductive Rejection where
  /-- No particular reason. -/
  | mismatch
  | unknownField
  | required (field : String)
  | nullNotAllowed (field : String)
  | unsupportedType (token field : String)
  | wrongType (field typeName : String)
  /-- A reason in the words of a caller. -/
  | other (reason : String)
deriving DecidableEq, Repr

namespace Rejection

def message : Rejection → String
  | .mismatch => "Document does not match schema."
  | .unknownField => "Field not found in schema."
  | .required field => field ++ " is required."
  | .nullNotAllowed field => field ++ " cannot be null."
  | .unsupportedType token field => "Unsupported type " ++ token ++ " and/or field " ++ field ++ "."
  | .wrongType field typeName => field ++ " should be type of " ++ typeName ++ "."
  | .other reason => reason

end Rejection

/-- Why a query cannot be read, translated or evaluated. -/
inductive QueryFault where
  | notArray (found : Json)
  | entryNotObject (found : Json)
  /-- A filter entry without the name of a field. -/
  | fieldMissing
  /-- An entry that names no field, or several. -/
  | fieldCount (count : Nat)
  | unknownCondition (field : String) (fault : ShapeFault)
  | sortName (name : String)
  | sortValue (found : Json)
  | sortNumber (x : Binary64)
  /-- A membership operator with an operand that is no array. -/
  | arrayNeeded (op : Operator) (field : String)

namespace QueryFault

def message : QueryFault → String
  | .notArray found => "Query must be an array of entries, found " ++ found.text
  | .entryNotObject found => "Query entry must be an object, found " ++ found.text
  | .fieldMissing => "Filter entry is missing a string 'field'"
  | .fieldCount count => "Query entry must name exactly one field, found " ++ toString count
  | .unknownCondition field fault =>
    "Unknown condition for '" ++ field ++ "': " ++ fault.message
  | .sortName name => "Invalid sort direction \"" ++ name ++ "\""
  | .sortValue found => "Invalid sort direction " ++ found.text
  | .sortNumber x =>
    "Sort direction must be 1, -1, \"asc\" or \"desc\", found " ++ x.text .plain
  | .arrayNeeded op field => "'" ++ op.token ++ "' on '" ++ field ++ "' needs an array of values"

end QueryFault

/-- Why a value or a document cannot be taken in. -/
inductive DocumentFault where
  | notObject (found : Json)
  | nestedObject
  | badDate (raw : String) (fault : Rfc3339.Fault)
  | unsupported (found : Bson)
  /-- A stored document without an identifier. -/
  | idMissing

namespace DocumentFault

def message : DocumentFault → String
  | .notObject found => "Expected a JSON object, found " ++ found.text
  | .nestedObject => "Nested objects are not supported as field values"
  | .badDate raw fault => "Invalid date '" ++ raw ++ "': " ++ fault.message
  | .unsupported found => "Unsupported BSON value " ++ found.text
  | .idMissing => "Stored document has no _id"

end DocumentFault

/-- Why a registry cannot be set up. -/
inductive SetupFault where
  | adapterMissing
deriving DecidableEq, Repr

namespace SetupFault

def message : SetupFault → String
  | .adapterMissing => "Registry requires a persistence adapter"

end SetupFault

/-- A failed operation, with its cause. -/
inductive Failure where
  | configuration (fault : ConfigurationFault)
  | validation (reason : Rejection)
  | notFound (id collection : String)
  | query (fault : QueryFault)
  | document (fault : DocumentFault)
  /-- JSON that has not the shape a reader expects. -/
  | shape (fault : ShapeFault)
  /-- A failure met while a value was read as a part of something else. -/
  | unreadable (cause : Failure)
  /-- A failure of the store behind an adapter, in its own words. -/
  | backend (reason : String)
  | setup (fault : SetupFault)

namespace Failure

/-- The kinds of failure. -/
inductive Kind where
  | configuration
  | validation
  | notFound
  | invalidQuery
  | invalidDocument
  | serialization
  | backend
  | initialization
deriving DecidableEq, Repr

def kind : Failure → Kind
  | .configuration _ => .configuration
  | .validation _ => .validation
  | .notFound _ _ => .notFound
  | .query _ => .invalidQuery
  | .document _ => .invalidDocument
  | .shape _ => .serialization
  | .unreadable _ => .serialization
  | .backend _ => .backend
  | .setup _ => .initialization

/-- The text of a failure: its cause, after a mark of its kind where callers rely on one. -/
def message : Failure → String
  | .configuration fault => fault.message
  | .validation reason => reason.message
  | .notFound id collection => "Document " ++ id ++ " not found in collection " ++ collection
  | .query fault => "Invalid query: " ++ fault.message
  | .document fault => "Invalid document: " ++ fault.message
  | .shape fault => "Serialization error: " ++ fault.message
  | .unreadable cause => "Serialization error: " ++ cause.message
  | .backend reason => "Backend error: " ++ reason
  | .setup fault => "Initialization error: " ++ fault.message

/-- Whether the failure is that a document is not there. -/
def isNotFound (f : Failure) : Bool := f.kind = .notFound

end Failure

end Docstore
