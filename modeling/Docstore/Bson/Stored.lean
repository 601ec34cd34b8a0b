import Docstore.Bson.FieldName
import Docstore.Document
import Docstore.Value.Bson

/-!
# Documents as they are stored

A document is stored as BSON, under escaped field names, with its identifier in the member `_id`.
Two names that are restored to one field leave the value that comes later.
-/

namespace Docstore

/-- The member that holds the identifier of a stored document. -/
def storedIdKey : String := "_id"

namespace Document

/-- The fields of a document in BSON. -/
def toBson (d : Document) : BsonDocument :=
  Entries.putAll (d.entries.map fun e => (FieldName.escape e.1, e.2.toBson))

/-- Reads members one after another into a document; the first unsupported one is reported. -/
def readBsonMembers : BsonDocument → Document → Except Failure Document
  | [], d => .ok d
  | (name, b) :: ms, d => do
    let v ← Value.ofBson b
    readBsonMembers ms (d.insert (FieldName.restore name) v)

/-- The fields of a stored document, without the members of some stored names. -/
def ofBson (skip : List String) (b : BsonDocument) : Except Failure Document :=
  readBsonMembers (b.filter fun m => !skip.contains m.1) ∅

end Document

namespace StoredDocument

/-- A document as it is stored. A field that is stored under the name of the identifier gives way to
it. -/
def toBson (d : StoredDocument) : BsonDocument :=
  Entries.put storedIdKey (.string d.id) d.fields.toBson

/-- The identifier in a stored form: a string as it is, an object id by its digits, anything else by
its text. -/
def idOfBson : Bson → String
  | .string s => s
  | .objectId hex => hex
  | b => b.text

/-- A stored document from its stored form. -/
def ofBson (b : BsonDocument) : Except Failure StoredDocument := do
  match Entries.get? storedIdKey b with
  | none => throw (.document .idMissing)
  | some id =>
    let fields ← Document.ofBson [storedIdKey] b
    return ⟨idOfBson id, fields⟩

end StoredDocument

end Docstore
