import Docstore.Model.Options
import Docstore.Query.Entry
import Docstore.Store.Call

/-!
# Models

A model binds a schema to a collection. Each of its operations first makes its checks and then asks
the store for one thing: `Model.call` says which, or why not, and `Model.run` passes the call on and
hands the answer back as it is. So a model reaches its store once for each operation that passes the
checks, and never otherwise.

A model may be made without a name; it gets one once and for all.
-/

namespace Docstore

/-- The name of a collection that a model is bound to, which is not empty. -/
structure CollectionName where
  text : String
  nonempty : text ≠ ""
deriving DecidableEq

namespace CollectionName

/-- A text as the name of a collection. -/
def ofText (s : String) : Except Failure CollectionName :=
  if h : s = "" then .error (.configuration .nameMissing) else .ok ⟨s, h⟩

end CollectionName

/-- A schema bound to a collection, once the model has a name. -/
structure Model where
  name? : Option CollectionName
  schema : Schema
  options : Options

/-- What a model can be asked, indexed by what a successful answer is. -/
inductive Operation : Type → Type where
  | get (query : Query) : Operation (List StoredDocument)
  | getOne (id : String) : Operation StoredDocument
  | add (d : Document) (id? : Option String) : Operation String
  | edit (id : String) (changes : Document) : Operation Unit
  | delete (id : String) : Operation Unit

namespace Model

/-- A model without a name. -/
def unnamed (schema : Schema) (options : Options) : Model := ⟨none, schema, options⟩

/-- Names a model that has no name. -/
def setName (m : Model) (name : String) : Except Failure Model := do
  let name ← CollectionName.ofText name
  match m.name? with
  | none => return { m with name? := some name }
  | some _ => throw (.configuration (.alreadyNamed name.text))

/-- A model with a name. -/
def named (name : String) (schema : Schema) (options : Options) : Except Failure Model :=
  (unnamed schema options).setName name

/-- The collection that a model works on. -/
def collection (m : Model) : Except Failure String :=
  match m.name? with
  | some name => .ok name.text
  | none => .error (.configuration .nameMissing)

/-- A document as a model adds it: with defaults, if these are to be filled in. -/
def completed (m : Model) (d : Document) : Document :=
  if m.options.applyDefaults then m.schema.complete d else d

/-- The one call that an operation makes, or the first check that it does not pass. -/
def call (m : Model) : Operation α → Except Failure (Call α)
  | .get query => do
    let collection ← m.collection
    return .list collection (← query.constraints)
  | .getOne id => do
    return .read (← m.collection) id
  | .add d id? => do
    let collection ← m.collection
    m.schema.validate m.options.missingRequired (m.completed d)
    return .create collection (m.completed d) id?
  | .edit id changes => do
    let collection ← m.collection
    m.schema.validate .ignore changes
    return .update collection id changes
  | .delete id => do
    return .delete (← m.collection) id

/-- Performs an operation through an adapter. -/
def run (m : Model) (adapter : Adapter σ) (op : Operation α) (s : σ) : Except Failure α × σ :=
  match m.call op with
  | .ok call => adapter.answer call s
  | .error failure => (.error failure, s)

end Model

end Docstore
