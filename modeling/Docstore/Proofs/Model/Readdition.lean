import Docstore.Proofs.Model.Delegation
import Docstore.Proofs.Store.Extent

/-!
# What is stored can be added again

A document that a model has stored is one that it adds as it is: no default is missing from it, and the
schema accepts it (`Model.AddsAsIs`). Adding such a document under the identifier that it has already
changes nothing.

Acceptance alone is not enough of an invariant. A stored document that lacks a field with a default
would be accepted, and would come back with the default when it is added again. So the invariant says
both, and both last: what is added was completed and then accepted; completing once is completing for
good (`Model.Completes.self`); and changes put over a document take no field away
(`Model.AddsAsIs.overlay`).
-/

namespace Docstore

namespace Model

variable {m : Model} {d e changes : Document}

/-- A completed document has nothing to be filled in. -/
theorem Completes.self (h : m.Completes d e) : m.Completes e e := by
  intro name
  rw [h name, Option.or_assoc, Option.or_self]

theorem Completes.overlay (h : m.Completes d d) : m.Completes (d.overlay changes) (d.overlay changes) := by
  intro name
  rw [Table.get?_overlay, Option.or_assoc, ← h name]

/-- A document that a model adds as it is: no default is missing, and the schema accepts it. -/
structure AddsAsIs (m : Model) (d : Document) : Prop where
  complete : m.Completes d d
  accepted : m.schema.Accepts m.options.missingRequired d

theorem AddsAsIs.overlay (h : m.AddsAsIs d) (accepted : m.schema.Accepts .ignore changes) :
    m.AddsAsIs (d.overlay changes) :=
  ⟨h.complete.overlay, h.accepted.overlay accepted⟩

/-- A model of a collection is known by its schema and its options. -/
theorem eq_of_collection_eq {m n : Model} {collection : String}
    (hm : m.collection = .ok collection) (hn : n.collection = .ok collection)
    (schemas : m.schema = n.schema) (options : m.options = n.options) : m = n := by
  obtain ⟨⟨text, _⟩, named, rfl⟩ := collection_eq_ok_iff.mp hm
  obtain ⟨⟨text', _⟩, named', same⟩ := collection_eq_ok_iff.mp hn
  cases same
  cases m
  cases n
  cases named
  cases named'
  cases schemas
  cases options
  rfl

/-- What a model asks to be written in its collection keeps the documents such that it adds them as they
are. -/
theorem keeps_addsAsIs {model : Model} {op : Operation α} {call : Call α} (h : m.call op = .ok call)
    {collection : String} (bound : m.collection = .ok collection → m = model)
    (answer : Except Failure α) : ∀ w ∈ call.writes answer, w.Keeps collection model.AddsAsIs := by
  intro w written
  obtain ⟨name, named, asked⟩ := call_eq_ok_iff.mp h
  have same (here : name.text = collection) : m = model :=
    bound (collection_eq_ok_iff.mpr ⟨name, named, here⟩)
  cases op with
  | get query =>
    obtain ⟨_, _, rfl⟩ := asked
    cases written
  | getOne id =>
    cases asked
    cases written
  | add d id? =>
    obtain ⟨e, completes, accepted, rfl⟩ := asked
    cases answer with
    | error failure => cases written
    | ok id =>
      obtain rfl := List.mem_singleton.mp written
      intro here
      obtain rfl := same here
      exact ⟨completes.self, accepted⟩
  | edit id changes =>
    obtain ⟨accepted, rfl⟩ := asked
    obtain rfl := List.mem_singleton.mp written
    intro here d h
    obtain rfl := same here
    exact h.overlay accepted
  | delete id =>
    cases asked
    obtain rfl := List.mem_singleton.mp written
    trivial

end Model

namespace Memory

variable {newId : Nat → String} {model : Model} {collection id : String} {m : Memory} {d : Document}

/-- A document that is stored already, and that the model adds as it is, is added without a change. -/
theorem run_add_stored (named : model.collection = .ok collection) (asIs : model.AddsAsIs d)
    (found : m.store.find? collection id = some d) :
    model.run (adapter newId) (.add d (some id)) m = (.ok id, m) := by
  have asks : model.Asks (.add d (some id)) (.create collection d (some id)) := by
    obtain ⟨name, has_name, rfl⟩ := Model.collection_eq_ok_iff.mp named
    exact ⟨name, has_name, d, asIs.complete, asIs.accepted, rfl⟩
  rw [Model.run_of_call (Model.call_eq_ok_iff.mpr asks)]
  show (_, (⟨m.store.put collection id d, m.made⟩ : Memory)) = (_, m)
  rw [Store.put_eq_self found]
  rfl

/-- After any run on a store in which a collection was empty, whatever its models have stored there can
be added again: this succeeds, answers with the identifier, and changes nothing. -/
theorem readding_changes_nothing (newId : Nat → String) {model : Model} {collection : String}
    (named : model.collection = .ok collection) {m : Memory}
    (empty : ∀ id, m.store.find? collection id = none) {rs : List Request}
    (bound : ∀ r ∈ rs, r.model.collection = .ok collection →
      r.model.schema = model.schema ∧ r.model.options = model.options) :
    ∀ id d, (Request.performAll (adapter newId) rs m).store.find? collection id = some d →
      model.run (adapter newId) (.add d (some id)) (Request.performAll (adapter newId) rs m) =
        (.ok id, Request.performAll (adapter newId) rs m) := by
  intro id d found
  refine run_add_stored named ?_ found
  have start : ∀ i e, m.store.find? collection i = some e → model.AddsAsIs e := by
    intro i e there
    rw [empty i] at there
    cases there
  refine forall_find?_performAll start (fun r hr call hcall answer => ?_) id d found
  refine Model.keeps_addsAsIs hcall (fun here => ?_) answer
  obtain ⟨schemas, options⟩ := bound r hr here
  exact Model.eq_of_collection_eq here named schemas options

/-- Tasks have a title, and a state that is open if it is not given. -/
def taskSchema : Schema :=
  .ofList [("state", .structured ⟨.string, true, true, some (.string "open"), none⟩),
    ("title", .bare .string)]

def taskModel : Model := ⟨some ⟨"tasks", by decide⟩, taskSchema, .standard⟩

/-- Two tasks, of which the first loses its state and the second has the default. -/
def taskRequests : List Request :=
  [⟨taskModel, .add (.ofList [("title", .string "write")]) (some "a")⟩,
    ⟨taskModel, .edit "a" (.ofList [("state", .null)])⟩,
    ⟨taskModel, .add (.ofList [("title", .string "read")]) none⟩,
    ⟨taskModel, .delete "b"⟩]

theorem readding_changes_nothing_tasks :
    ∃ d, (Request.performAll (adapter fun _ => "new") taskRequests ⟨.empty, 0⟩).store.find? "tasks"
        "new" = some d ∧ d.keys = ["state", "title"] ∧
      taskModel.run (adapter fun _ => "new") (.add d (some "new"))
          (Request.performAll (adapter fun _ => "new") taskRequests ⟨.empty, 0⟩) =
        (.ok "new", Request.performAll (adapter fun _ => "new") taskRequests ⟨.empty, 0⟩) := by
  have bound : ∀ r ∈ taskRequests, r.model.collection = .ok "tasks" →
      r.model.schema = taskModel.schema ∧ r.model.options = taskModel.options := by
    simp [taskRequests]
  have unchanged := @readding_changes_nothing (fun _ => "new") taskModel "tasks" rfl ⟨.empty, 0⟩
    (fun _ => rfl) taskRequests bound
  exact ⟨_, rfl, by decide, unchanged "new" _ rfl⟩

end Memory

end Docstore
