import Docstore.Proofs.Model.Delegation
import Docstore.Proofs.Store.Extent

/-!
# Operations are atomic and local

An operation on a store in memory that fails has done nothing, whatever made it fail: the name, a
check, a query, an operand, or a document that is not there. An operation that succeeds has written at
one place at most: in the collection of its model, under the identifier that it was given or, for a new
document, that it answered with. `Memory.run_atomic_and_local` says so for every model, operation and
store, and that collections only ever come, by a document that is added to them.

What a successful operation has written is told from its kind (`Model.written_of_asksIn`); what writes
do to a store is known from `Store.find?_answer` and `Store.hasCollection_answer`.
-/

namespace Docstore

namespace Operation

/-- The identifier under which an operation has written that succeeded: the one it was given or, for a
new document, the one it answered with. Reading and listing write nowhere. -/
def target? : Operation α → α → Option String
  | .get _, _ => none
  | .getOne _, _ => none
  | .add _ id?, answered => some (id?.getD answered)
  | .edit id _, _ => some id
  | .delete id, _ => some id

/-- Whether an operation adds a document. -/
def Adds : Operation α → Prop
  | .add _ _ => True
  | _ => False

end Operation

/-! ## Failures -/

/-- A call that fails leaves the store as it was. -/
theorem Store.eq_of_answer_error {fresh : String} {call : Call α} {s t : Store} {failure : Failure}
    (h : answer fresh call s = (.error failure, t)) : t = s := by
  cases call with
  | list collection cs => exact (congrArg Prod.snd h).symm
  | read collection id =>
    cases hs : s.find? collection id with
    | none => exact (congrArg Prod.snd ((answer_read_missing hs).symm.trans h)).symm
    | some d => exact (congrArg Prod.snd ((answer_read_found hs).symm.trans h)).symm
  | create collection d id? => cases congrArg Prod.fst h
  | update collection id changes =>
    cases hs : s.find? collection id with
    | none => exact (congrArg Prod.snd ((answer_update_missing hs).symm.trans h)).symm
    | some d => cases congrArg Prod.fst ((answer_update_found hs).symm.trans h)
  | delete collection id => cases congrArg Prod.fst h

/-- A call that fails leaves the memory as it was: no identifier is made up for it either. -/
theorem Memory.eq_of_answer_error {newId : Nat → String} {call : Call α} {m after : Memory}
    {failure : Failure} (h : (adapter newId).answer call m = (.error failure, after)) : after = m := by
  cases answered : Store.answer (newId m.made) call m.store with
  | mk outcome t =>
    have unmade : needsId call = false := by
      cases call with
      | create collection d id? => cases congrArg Prod.fst h
      | _ => rfl
    simp only [adapter, answered, unmade, Bool.false_eq_true, if_false, Prod.mk.injEq] at h
    obtain ⟨rfl, rfl⟩ := h
    rw [Store.eq_of_answer_error answered]

/-! ## Successes -/

/-- From one store to another nothing changes but the document at one place of a collection, if at any;
no collection goes, and none comes unless a document is added to it. -/
structure Store.ChangedAt (s t : Store) (collection : String) (id? : Option String) (added : Prop) :
    Prop where
  elsewhere : ∀ c i, ¬ (c = collection ∧ id? = some i) → t.find? c i = s.find? c i
  kept : ∀ c, s.HasCollection c → t.HasCollection c
  appeared : ∀ c, t.HasCollection c → ¬ s.HasCollection c → c = collection ∧ added

/-- What an operation has asked to be written is in its collection and under its own identifier, and
is a document put there only if it adds one. -/
theorem Model.written_of_asksIn {model : Model} {collection : String} {op : Operation α}
    {call : Call α} (asked : model.AsksIn collection op call) {fresh : String} {s : Store} {result : α}
    (answered : (Store.answer fresh call s).1 = .ok result) {w : Write}
    (written : w ∈ call.writes (.ok result)) :
    (∃ id, op.target? result = some id ∧ w.place = (collection, id)) ∧
      ∀ c i d, w = .put c i d → op.Adds := by
  cases op with
  | get query =>
    obtain ⟨_, _, rfl⟩ := asked
    cases written
  | getOne id =>
    cases asked
    cases written
  | add d id? =>
    obtain ⟨e, _, _, rfl⟩ := asked
    obtain rfl := List.mem_singleton.mp written
    have given : id?.getD result = result := by
      cases id? with
      | none => rfl
      | some id => exact Except.ok.inj answered
    exact ⟨⟨result, congrArg some given, rfl⟩, fun _ _ _ _ => trivial⟩
  | edit id changes =>
    obtain ⟨_, rfl⟩ := asked
    obtain rfl := List.mem_singleton.mp written
    exact ⟨⟨id, rfl, rfl⟩, nofun⟩
  | delete id =>
    cases asked
    obtain rfl := List.mem_singleton.mp written
    exact ⟨⟨id, rfl, rfl⟩, nofun⟩

/-- A successful operation has changed one place at most. -/
theorem Store.changedAt_of_asksIn {model : Model} {collection : String} {op : Operation α}
    {call : Call α} (asked : model.AsksIn collection op call) {fresh : String} {s : Store} {result : α}
    (answered : (answer fresh call s).1 = .ok result) :
    s.ChangedAt (answer fresh call s).2 collection (op.target? result) op.Adds := by
  constructor
  · intro c i other
    rw [find?_answer, answered]
    refine Write.effects_of_place_ne fun w written here => ?_
    obtain ⟨⟨id, target, place⟩, -⟩ := Model.written_of_asksIn asked answered written
    obtain ⟨rfl, rfl⟩ := Prod.mk.inj (place.symm.trans here)
    exact other ⟨rfl, target⟩
  · intro c there
    exact (hasCollection_answer fresh call s c).mpr (.inl there)
  · intro c there absent
    obtain ⟨id, d, written⟩ := ((hasCollection_answer fresh call s c).mp there).resolve_left absent
    rw [answered] at written
    obtain ⟨⟨_, _, place⟩, put⟩ := Model.written_of_asksIn asked answered written
    exact ⟨congrArg Prod.fst place, put c id d rfl⟩

namespace Memory

variable {newId : Nat → String}

/-- A request takes no collection away, whether it succeeds or fails. -/
theorem hasCollection_perform {m : Memory} {c : String} (h : m.store.HasCollection c) (r : Request) :
    (r.perform (adapter newId) m).store.HasCollection c := by
  cases hcall : r.model.call r.operation with
  | error failure =>
    rw [Request.perform, Model.run_of_refusal hcall]
    exact h
  | ok call =>
    rw [Request.perform, Model.run_of_call hcall]
    exact (Store.hasCollection_answer (newId m.made) call m.store c).mpr (.inl h)

/-- No run of requests takes a collection away. -/
theorem hasCollection_performAll {m : Memory} {c : String} (h : m.store.HasCollection c)
    (rs : List Request) : (Request.performAll (adapter newId) rs m).store.HasCollection c := by
  induction rs generalizing m with
  | nil => exact h
  | cons r rs ih => exact ih (hasCollection_perform h r)

/-- An operation that fails leaves everything as it was. One that succeeds changes no document but the
one in its collection under its own identifier, takes no collection away, and adds none unless it adds
a document to it. A collection that is there stays through every run of requests that follows. -/
theorem run_atomic_and_local (newId : Nat → String) (model : Model) (op : Operation α) (m : Memory) :
    (∀ failure after, model.run (adapter newId) op m = (.error failure, after) → after = m) ∧
      (∀ result after, model.run (adapter newId) op m = (.ok result, after) →
        ∃ collection, model.collection = .ok collection ∧
          m.store.ChangedAt after.store collection (op.target? result) op.Adds) ∧
      ∀ rs c, m.store.HasCollection c →
        (Request.performAll (adapter newId) rs m).store.HasCollection c := by
  refine ⟨?_, ?_, fun rs c there => hasCollection_performAll there rs⟩
  · intro failure after ran
    cases hcall : model.call op with
    | error refused =>
      rw [Model.run_of_refusal hcall] at ran
      exact (congrArg Prod.snd ran).symm
    | ok call =>
      rw [Model.run_of_call hcall] at ran
      exact eq_of_answer_error ran
  · intro result after ran
    cases hcall : model.call op with
    | error refused =>
      rw [Model.run_of_refusal hcall] at ran
      cases ran
    | ok call =>
      rw [Model.run_of_call hcall] at ran
      obtain ⟨name, named, asked⟩ := Model.call_eq_ok_iff.mp hcall
      have answered : (Store.answer (newId m.made) call m.store).1 = .ok result :=
        congrArg Prod.fst ran
      have store : (Store.answer (newId m.made) call m.store).2 = after.store :=
        congrArg (fun r => r.2.store) ran
      refine ⟨name.text, Model.collection_eq_ok_iff.mpr ⟨name, named, rfl⟩, ?_⟩
      exact store ▸ Store.changedAt_of_asksIn asked answered

/-- A change to a post that is not there fails; the first tag makes a collection beside the posts. -/
theorem run_atomic_and_local_posts :
    postModel.run (adapter fun _ => "new") (.edit "b" ∅) (ofSeed postSeed) =
        (.error (.notFound "b" "posts"), ofSeed postSeed) ∧
      (∃ after, tagModel.run (adapter fun _ => "new") (.add ∅ none) (ofSeed postSeed) =
          (.ok "new", after) ∧
        (ofSeed postSeed).store.ChangedAt after.store "tags" (some "new") True ∧
        ¬ (ofSeed postSeed).store.HasCollection "tags" ∧ after.store.HasCollection "tags") ∧
      (Request.performAll (adapter fun _ => "new") postRequests (ofSeed postSeed)).store.HasCollection
        "posts" := by
  obtain ⟨failed, -, lasting⟩ :=
    run_atomic_and_local (fun _ => "new") postModel (.edit "b" ∅) (ofSeed postSeed)
  obtain ⟨-, succeeded, -⟩ :=
    run_atomic_and_local (fun _ => "new") tagModel (.add ∅ none) (ofSeed postSeed)
  obtain ⟨_, named, changed⟩ := succeeded _ _ rfl
  cases named
  exact ⟨Prod.ext rfl (failed _ _ rfl), ⟨_, rfl, changed, by decide, by decide⟩,
    lasting postRequests "posts" (by decide)⟩

end Memory

end Docstore
