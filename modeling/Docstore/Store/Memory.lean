import Docstore.Query.Selection
import Docstore.Store.Call

/-!
# The store in memory

A store is a table of collections, and a collection is a table of documents under their identifiers.
Creating under an identifier that is taken replaces the document; updating puts the changes over the
fields that are there; deleting what is not there changes nothing. A collection appears with its
first document and stays after its last.

Identifiers for new documents come from outside: a call that has to make one up is answered with the
fresh identifier that it is given.
-/

namespace Docstore

/-- Documents by collection and identifier. -/
structure Store where
  collections : Table (Table Document)

namespace Store

def empty : Store := ⟨∅⟩

/-- The documents of a collection; none, if there is no such collection. -/
def documents (s : Store) (collection : String) : Table Document :=
  (s.collections.get? collection).getD ∅

/-- The document in a collection under an identifier. -/
def find? (s : Store) (collection id : String) : Option Document :=
  (s.documents collection).get? id

/-- The number of documents in a collection. -/
def count (s : Store) (collection : String) : Nat := (s.documents collection).size

/-- Puts a document into a collection, which appears if it was not there. -/
def put (s : Store) (collection id : String) (d : Document) : Store :=
  ⟨s.collections.insert collection ((s.documents collection).insert id d)⟩

/-- Takes a document out of a collection. No collection appears or disappears. -/
def remove (s : Store) (collection id : String) : Store :=
  match s.collections.get? collection with
  | none => s
  | some ds => ⟨s.collections.insert collection (ds.erase id)⟩

/-- The documents of a collection with their identifiers, in the order of these. -/
def stored (s : Store) (collection : String) : List StoredDocument :=
  (s.documents collection).entries.map fun e => ⟨e.1, e.2⟩

/-- The failure to find a document. -/
def missing (collection id : String) : Failure := .notFound id collection

/-- Answers a call. `fresh` is the identifier for a document that comes without one. -/
def answer (fresh : String) : Call α → Store → Except Failure α × Store
  | .list collection constraints, s =>
    (StoredDocument.select constraints (s.stored collection), s)
  | .read collection id, s =>
    match s.find? collection id with
    | some d => (.ok ⟨id, d⟩, s)
    | none => (.error (missing collection id), s)
  | .create collection d id?, s =>
    let id := id?.getD fresh
    (.ok id, s.put collection id d)
  | .update collection id changes, s =>
    match s.find? collection id with
    | some d => (.ok (), s.put collection id (d.overlay changes))
    | none => (.error (missing collection id), s)
  | .delete collection id, s => (.ok (), s.remove collection id)

end Store

/-- A store together with the number of identifiers it has made up. -/
structure Memory where
  store : Store
  made : Nat

namespace Memory

/-- Whether a call needs a new identifier. -/
def needsId : Call α → Bool
  | .create _ _ none => true
  | _ => false

/-- The store in memory as an adapter. The identifiers it makes up are the values of `newId`, one
after another. -/
def adapter (newId : Nat → String) : Adapter Memory where
  answer call m :=
    let (result, store) := Store.answer (newId m.made) call m.store
    (result, ⟨store, if needsId call then m.made + 1 else m.made⟩)

/-- A store that starts with given documents: collection, identifier and fields. A later one replaces
an earlier one in its place. -/
def ofSeed (seed : List (String × String × Document)) : Memory :=
  ⟨seed.foldl (fun s e => s.put e.1 e.2.1 e.2.2) .empty, 0⟩

end Memory

end Docstore
