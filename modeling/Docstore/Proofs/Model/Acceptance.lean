import Docstore.Model.Basic
import Docstore.Proofs.Result
import Docstore.Proofs.Schema.Acceptance
import Docstore.Proofs.Store.Write

/-!
# Models keep their collections accepted

A `Request` is a model and what it is asked; a run is any list of requests, through any models. The
models that share a collection, a schema and options are told from the rest by the name they have.

A run keeps a property of the documents of a collection if every write that it asks for does
(`Memory.forall_find?_performAll`). `Memory.allAccepted_performAll` is that for the property of being
accepted under the policy of the options. There are two ways a document gets into the collection, and
each write path has its own reason to be safe. A document that is added was validated as it is stored,
with its defaults. Changes are validated alone, and without the required fields; but they are only ever
put over a document that is accepted already (`Schema.Accepts.overlay`). Requests through models of
other collections write elsewhere.
-/

namespace Docstore

/-- A model and what it is asked. -/
structure Request where
  {result : Type}
  model : Model
  operation : Operation result

namespace Request

/-- The state to which a request leads, whether it succeeds or fails. -/
def perform (a : Adapter σ) (s : σ) (r : Request) : σ := (r.model.run a r.operation s).2

/-- The state to which requests lead, one after another. -/
def performAll (a : Adapter σ) (rs : List Request) (s : σ) : σ := rs.foldl (perform a) s

end Request

namespace Model

/-- An operation whose checks pass makes its call, and its outcome is the answer. -/
theorem run_of_call {m : Model} {a : Adapter σ} {op : Operation α} {s : σ} {call : Call α}
    (h : m.call op = .ok call) : m.run a op s = a.answer call s := by
  rw [run, h]

/-- An operation whose checks fail does not reach the adapter. -/
theorem run_of_refusal {m : Model} {a : Adapter σ} {op : Operation α} {s : σ} {failure : Failure}
    (h : m.call op = .error failure) : m.run a op s = (.error failure, s) := by
  rw [run, h]

end Model

/-! ## Writes that keep a property of documents -/

/-- A write keeps a property that the documents of a collection have. -/
def Write.Keeps (collection : String) (P : Document → Prop) : Write → Prop
  | .put c _ d => c = collection → P d
  | .merge c _ changes => c = collection → ∀ d, P d → P (d.overlay changes)
  | .drop _ _ => True

namespace Write

variable {collection id : String} {P : Document → Prop} {found? : Option Document} {d : Document}

theorem Keeps.effect {w : Write} (h : w.Keeps collection P) (found : ∀ d, found? = some d → P d)
    (hd : effect collection id found? w = some d) : P d := by
  cases w with
  | put c i e =>
    rw [Write.effect] at hd
    split at hd
    · next here =>
      cases hd
      exact h here.1
    · exact found d hd
  | merge c i changes =>
    rw [Write.effect] at hd
    split at hd
    · next here =>
      obtain ⟨e, he, rfl⟩ := Option.map_eq_some_iff.mp hd
      exact h here.1 e (found e he)
    · exact found d hd
  | drop c i =>
    rw [Write.effect] at hd
    split at hd
    · cases hd
    · exact found d hd

theorem Keeps.effects {ws : List Write} (h : ∀ w ∈ ws, w.Keeps collection P)
    (found : ∀ d, found? = some d → P d) (hd : effects collection id ws found? = some d) : P d := by
  induction ws generalizing found? with
  | nil => exact found d hd
  | cons w ws ih =>
    exact ih (fun u hu => h u (List.mem_cons_of_mem _ hu))
      (fun e he => (h w List.mem_cons_self).effect found he) hd

end Write

namespace Memory

variable {newId : Nat → String} {collection : String} {P : Document → Prop}

/-- One request keeps a property of the documents of a collection, if the writes of its call do. -/
theorem forall_find?_perform {m : Memory} {r : Request}
    (h : ∀ id d, m.store.find? collection id = some d → P d)
    (keeps : ∀ call, r.model.call r.operation = .ok call → ∀ answer, ∀ w ∈ call.writes answer,
      w.Keeps collection P) :
    ∀ id d, (r.perform (adapter newId) m).store.find? collection id = some d → P d := by
  intro id d hd
  cases hcall : r.model.call r.operation with
  | error failure =>
    rw [Request.perform, Model.run_of_refusal hcall] at hd
    exact h id d hd
  | ok call =>
    rw [Request.perform, Model.run_of_call hcall] at hd
    have writes := Store.find?_answer (newId m.made) call m.store collection id
    exact Write.Keeps.effects (keeps call hcall _) (h id) (writes.symm.trans hd)

/-- A run of requests keeps a property of the documents of a collection, if the writes of its calls
do. -/
theorem forall_find?_performAll {m : Memory} {rs : List Request}
    (h : ∀ id d, m.store.find? collection id = some d → P d)
    (keeps : ∀ r ∈ rs, ∀ call, r.model.call r.operation = .ok call → ∀ answer,
      ∀ w ∈ call.writes answer, w.Keeps collection P) :
    ∀ id d, (Request.performAll (adapter newId) rs m).store.find? collection id = some d → P d := by
  induction rs generalizing m with
  | nil => exact h
  | cons r rs ih =>
    obtain ⟨first, rest⟩ := List.forall_mem_cons.mp keeps
    exact ih (forall_find?_perform h first) rest

end Memory

/-! ## Writes that a schema accepts -/

/-- A write puts into a collection only what a schema accepts: a document under a policy, changes
under no policy for what they leave out. -/
def Write.Accepted (collection : String) (schema : Schema) (missing : MissingRequired) :
    Write → Prop
  | .put c _ d => c = collection → schema.Accepts missing d
  | .merge c _ changes => c = collection → schema.Accepts .ignore changes
  | .drop _ _ => True

/-- An accepted write leaves accepted documents accepted. -/
theorem Write.Accepted.keeps {collection : String} {schema : Schema} {missing : MissingRequired}
    {w : Write} (h : w.Accepted collection schema missing) :
    w.Keeps collection (schema.Accepts missing) := by
  cases w with
  | put c i d => exact h
  | merge c i changes => exact fun here d accepted => accepted.overlay (h here)
  | drop c i => trivial

/-! ## Requests -/

/-- What a model asks to be written in its collection, its schema accepts: it has checked it. -/
theorem Model.accepted_of_call {m : Model} {op : Operation α} {call : Call α}
    (h : m.call op = .ok call) {collection : String} {schema : Schema} {missing : MissingRequired}
    (bound : m.collection = .ok collection →
      m.schema = schema ∧ m.options.missingRequired = missing)
    (answer : Except Failure α) :
    ∀ w ∈ call.writes answer, w.Accepted collection schema missing := by
  intro w hw
  cases op with
  | get query =>
    obtain ⟨_, _, h⟩ := bind_eq_ok_iff.mp h
    obtain ⟨_, _, h⟩ := bind_eq_ok_iff.mp h
    cases h
    cases hw
  | getOne id =>
    obtain ⟨_, _, h⟩ := bind_eq_ok_iff.mp h
    cases h
    cases hw
  | add d id? =>
    obtain ⟨c, hc, h⟩ := bind_eq_ok_iff.mp h
    obtain ⟨_, valid, h⟩ := bind_eq_ok_iff.mp h
    cases h
    cases answer with
    | error e => cases hw
    | ok id =>
      obtain rfl := List.mem_singleton.mp hw
      intro here
      obtain ⟨rfl, rfl⟩ := bound (here ▸ hc)
      exact Schema.validate_eq_ok_iff.mp valid
  | edit id changes =>
    obtain ⟨c, hc, h⟩ := bind_eq_ok_iff.mp h
    obtain ⟨_, valid, h⟩ := bind_eq_ok_iff.mp h
    cases h
    obtain rfl := List.mem_singleton.mp hw
    intro here
    obtain ⟨rfl, -⟩ := bound (here ▸ hc)
    exact Schema.validate_eq_ok_iff.mp valid
  | delete id =>
    obtain ⟨_, _, h⟩ := bind_eq_ok_iff.mp h
    cases h
    obtain rfl := List.mem_singleton.mp hw
    trivial

namespace Store

/-- Every document of a collection is accepted. -/
def AllAccepted (s : Store) (collection : String) (schema : Schema) (missing : MissingRequired) :
    Prop :=
  ∀ id d, s.find? collection id = some d → schema.Accepts missing d

end Store

namespace Memory

variable {newId : Nat → String} {collection : String} {schema : Schema} {options : Options}

/-- A run of requests keeps a collection accepted, if the models that work on it have its schema and
options. -/
theorem allAccepted_performAll {rs : List Request} {m : Memory}
    (h : m.store.AllAccepted collection schema options.missingRequired)
    (bound : ∀ r ∈ rs, r.model.collection = .ok collection →
      r.model.schema = schema ∧ r.model.options = options) :
    (Request.performAll (adapter newId) rs m).store.AllAccepted collection schema
      options.missingRequired := by
  refine forall_find?_performAll h fun r hr call hcall answer w hw => ?_
  have shared (here : r.model.collection = .ok collection) :
      r.model.schema = schema ∧ r.model.options.missingRequired = options.missingRequired := by
    obtain ⟨schemas, options⟩ := bound r hr here
    exact ⟨schemas, congrArg Options.missingRequired options⟩
  exact (Model.accepted_of_call hcall shared answer w hw).keeps

/-- A collection in which every document is valid stays so through every run, under the policy of its
models; if they reject missing fields, no document ever lacks a required one. -/
theorem valid_after_requests (newId : Nat → String) {schema : Schema} {options : Options}
    {collection : String} {m : Memory}
    (valid : ∀ id d, m.store.find? collection id = some d →
      schema.validate options.missingRequired d = .ok ())
    {rs : List Request}
    (bound : ∀ r ∈ rs, r.model.collection = .ok collection →
      r.model.schema = schema ∧ r.model.options = options) :
    ∀ id d, (Request.performAll (adapter newId) rs m).store.find? collection id = some d →
      schema.validate options.missingRequired d = .ok () ∧
        (options.missingRequired = .reject → ∀ name f, schema.get? name = some f →
          f.required = true → d.contains name = true) := by
  intro id d hd
  have start : m.store.AllAccepted collection schema options.missingRequired :=
    fun i e he => Schema.validate_eq_ok_iff.mp (valid i e he)
  have accepted := allAccepted_performAll start bound id d hd
  exact ⟨Schema.validate_eq_ok_iff.mpr accepted, accepted.complete⟩

/-- Posts have a number of views, which is required, and may have a title. -/
def postSchema : Schema :=
  .ofList [("views", .structured ⟨.number, true, false, none, none⟩),
    ("title", .bare .string)]

def postModel : Model := ⟨some ⟨"posts", by decide⟩, postSchema, .standard⟩

def tagModel : Model := ⟨some ⟨"tags", by decide⟩, ∅, ⟨.ignore, false⟩⟩

/-- One post with no views. -/
def postSeed : List (String × String × Document) :=
  [("posts", "a", .ofList [("views", .number (.zero false))])]

/-- Two changes to the first post, the second of which is refused, two more documents, of which the
first is refused, and another collection. -/
def postRequests : List Request :=
  [⟨postModel, .edit "a" (.ofList [("title", .string "hi")])⟩,
    ⟨postModel, .edit "a" (.ofList [("views", .null)])⟩,
    ⟨postModel, .add (.ofList [("title", .string "no views")]) (some "b")⟩,
    ⟨postModel, .add (.ofList [("views", .number (.zero true))]) none⟩,
    ⟨tagModel, .add ∅ (some "a")⟩]

theorem valid_after_requests_posts :
    ∃ d, (Request.performAll (adapter fun _ => "new") postRequests (ofSeed postSeed)).store.find?
        "posts" "a" = some d ∧
      postSchema.validate .reject d = .ok () ∧ d.keys = ["title", "views"] := by
  have valid : ∀ id d, (ofSeed postSeed).store.find? "posts" id = some d →
      postSchema.validate Options.standard.missingRequired d = .ok () := by
    intro id d hd
    rw [find?_ofSeed] at hd
    obtain ⟨-, same⟩ := Option.ite_none_right_eq_some.mp hd
    cases same
    rfl
  have bound : ∀ r ∈ postRequests, r.model.collection = .ok "posts" →
      r.model.schema = postSchema ∧ r.model.options = .standard := by
    simp [postRequests, postModel, tagModel, Model.collection]
  have kept := valid_after_requests (fun _ => "new") valid bound
  exact ⟨_, rfl, (kept "a" _ rfl).1, by decide⟩

end Memory

end Docstore
