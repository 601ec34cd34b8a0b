import Docstore.Query.Constraint

/-!
# Calls and adapters

A store keeps documents in collections, each under an identifier. `Call` is everything a store can
be asked, indexed by what a successful answer is; an `Adapter` is anything that answers calls and
moves from state to state as it does. Every model works through an adapter, so what is said of all
adapters holds for each store.
-/

namespace Docstore

/-- One call to a store. -/
inductive Call : Type → Type where
  /-- The documents of a collection that meet constraints. -/
  | list (collection : String) (constraints : List Constraint) : Call (List StoredDocument)
  /-- The document under an identifier. -/
  | read (collection id : String) : Call StoredDocument
  /-- Puts a document under an identifier, or under a new one, and answers with it. -/
  | create (collection : String) (d : Document) (id? : Option String) : Call String
  /-- Changes some fields of the document under an identifier. -/
  | update (collection id : String) (changes : Document) : Call Unit
  /-- Takes away the document under an identifier. -/
  | delete (collection id : String) : Call Unit

namespace Call

/-- The collection that a call is about. -/
def collection : Call α → String
  | .list collection _ => collection
  | .read collection _ => collection
  | .create collection _ _ => collection
  | .update collection _ _ => collection
  | .delete collection _ => collection

end Call

/-- Something that answers calls: each one leads to a result and to the next state. -/
structure Adapter (σ : Type u) where
  answer : {α : Type} → Call α → σ → Except Failure α × σ

end Docstore
