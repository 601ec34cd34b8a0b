import Docstore.Value.Json

/-!
# Documents

A document gives values to the names of its fields. Once it is stored it has an identifier too,
which its JSON form shows under the name `id`.
-/

namespace Docstore

/-- The fields of a document. -/
abbrev Document := Table Value

namespace Document

/-- Reads members one after another into a document; the first bad one is reported. -/
def readMembers : Entries Json → Document → Except Failure Document
  | [], d => .ok d
  | (name, j) :: ms, d => do
    let v ← Value.ofJson j
    readMembers ms (d.insert name v)

/-- The document that a JSON object stands for. -/
def ofJson : Json → Except Failure Document
  | .object members => readMembers members ∅
  | j => .error (.document (.notObject j))

/-- The JSON form of a document. -/
def toJson (d : Document) : Json := .object (d.map Value.toJson).entries

end Document

/-- A document in a store, with its identifier. -/
structure StoredDocument where
  id : String
  fields : Document

/-- The JSON form of a stored document: its fields, and its identifier as `id`, which hides a field of
that name. -/
def StoredDocument.toJson (d : StoredDocument) : Json :=
  .object ((d.fields.map Value.toJson).insert "id" (.string d.id)).entries

end Docstore
