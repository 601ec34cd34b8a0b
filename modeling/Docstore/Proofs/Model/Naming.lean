import Docstore.Proofs.Model.Delegation

/-!
# The name of a model

A model is made without a name and gets one once and for all. `Use` is what can be done with a model:
it is given a name, or asked to perform an operation. Whatever is done with it, in whatever order, its
name is the first one it was given that is not empty (`Model.named_once`). A name that is empty, or
that comes when the model has one, is refused and changes nothing; an operation that comes before the
name is refused, too, and does not reach the store; and every call that the model ever made is about
the collection of that name.

`Session.NamedAs` is what one use keeps and a run of uses keeps with it: what the name is, and that all
calls so far bear it.
-/

namespace Docstore

/-- What is done with a model: it is given a name, or asked to perform an operation. -/
inductive Use where
  | name (text : String)
  | ask {result : Type} (op : Operation result)

/-- A model in use, with the state of its store. -/
structure Session (σ : Type u) where
  model : Model
  state : σ

namespace Use

/-- The name that a use gives; an empty one is none. -/
def given? : Use → Option String
  | .name text => if text = "" then none else some text
  | .ask _ => none

/-- The first name that is given. -/
def firstName? (uses : List Use) : Option String := uses.findSome? given?

/-- Why a use fails, if it does. -/
def failure? (a : Adapter σ) (s : Session σ) : Use → Option Failure
  | .name text =>
    match s.model.setName text with
    | .ok _ => none
    | .error failure => some failure
  | .ask op =>
    match (s.model.run a op s.state).1 with
    | .ok _ => none
    | .error failure => some failure

/-- What a use makes of a session. A name that is refused leaves the model as it was. -/
def perform (a : Adapter σ) (s : Session σ) : Use → Session σ
  | .name text =>
    match s.model.setName text with
    | .ok named => { s with model := named }
    | .error _ => s
  | .ask op => { s with state := (s.model.run a op s.state).2 }

/-- What uses make of a session, one after another. -/
def performAll (a : Adapter σ) (uses : List Use) (s : Session σ) : Session σ :=
  uses.foldl (perform a) s

end Use

namespace Model

variable {m : Model} {text : String}

/-! ## Giving a name -/

theorem setName_empty (m : Model) : m.setName "" = .error (.configuration .nameMissing) := rfl

theorem setName_of_unnamed (unnamed : m.name? = none) (nonempty : text ≠ "") :
    m.setName text = .ok { m with name? := some ⟨text, nonempty⟩ } := by
  rw [setName, CollectionName.ofText, dif_neg nonempty, ok_bind, unnamed]
  rfl

theorem setName_of_named (named : m.name?.isSome) (nonempty : text ≠ "") :
    m.setName text = .error (.configuration (.alreadyNamed text)) := by
  obtain ⟨name, hn⟩ := Option.isSome_iff_exists.mp named
  rw [setName, CollectionName.ofText, dif_neg nonempty, ok_bind, hn]
  rfl

/-- No name is taken that is empty or comes when the model has one. -/
theorem exists_setName_error (refused : text = "" ∨ m.name?.isSome) :
    ∃ fault, m.setName text = .error (.configuration fault) := by
  by_cases empty : text = ""
  · exact ⟨_, empty ▸ setName_empty m⟩
  · exact ⟨_, setName_of_named (refused.resolve_left empty) empty⟩

/-- A call is about the collection that the model is named after. -/
theorem collection_of_call {op : Operation α} {call : Call α} (h : m.call op = .ok call) :
    m.name?.map CollectionName.text = some call.collection := by
  obtain ⟨name, named, asked⟩ := call_eq_ok_iff.mp h
  rw [named]
  cases op with
  | get query =>
    obtain ⟨_, _, rfl⟩ := asked
    rfl
  | getOne id =>
    cases asked
    rfl
  | add d id? =>
    obtain ⟨_, _, _, rfl⟩ := asked
    rfl
  | edit id changes =>
    obtain ⟨_, rfl⟩ := asked
    rfl
  | delete id =>
    cases asked
    rfl

end Model

namespace Use

variable {a : Adapter σ} {s : Session σ}

/-- A name that is refused is a failure that changes nothing. -/
theorem of_setName_error {text : String} {failure : Failure}
    (h : s.model.setName text = .error failure) :
    (name text).failure? a s = some failure ∧ (name text).perform a s = s := by
  simp only [failure?, perform, h, and_self]

/-- An operation that is refused is a failure that changes nothing. -/
theorem of_call_error {op : Operation α} {failure : Failure} (h : s.model.call op = .error failure) :
    (ask op).failure? a s = some failure ∧ (ask op).perform a s = s := by
  simp only [failure?, perform, Model.run_of_refusal h, and_self]

end Use

/-! ## Sessions -/

/-- A model has a name, or none yet, and all calls of the session so far are about the collection of
that name. -/
structure Session.NamedAs (s : Session (σ × List AnyCall)) (name? : Option String) : Prop where
  name : s.model.name?.map CollectionName.text = name?
  calls : ∀ call ∈ s.state.2, name? = some call.2.collection

namespace Session.NamedAs

variable {a : Adapter σ} {s : Session (σ × List AnyCall)} {name? : Option String}

/-- After one more use the name is the one from before or, if there was none, the one that is given. -/
theorem perform (h : s.NamedAs name?) (u : Use) :
    (u.perform a.logged s).NamedAs (name?.or u.given?) := by
  cases u with
  | name text =>
    by_cases refused : text = "" ∨ s.model.name?.isSome
    · obtain ⟨fault, failed⟩ := Model.exists_setName_error refused
      have kept : name?.or (Use.name text).given? = name? := by
        rcases refused with rfl | named
        · exact Option.or_none
        · have some_name : name?.isSome := by rw [← h.name, Option.isSome_map, named]
          exact Option.or_of_isSome some_name
      rw [(Use.of_setName_error failed).2, kept]
      exact h
    · obtain ⟨nonempty, unnamed⟩ := not_or.mp refused
      have no_name : s.model.name? = none := Option.not_isSome_iff_eq_none.mp unnamed
      have was_none : name? = none := by rw [← h.name, no_name, Option.map_none]
      rw [Use.perform, Model.setName_of_unnamed no_name nonempty, was_none, Option.none_or,
        Use.given?, if_neg nonempty]
      refine ⟨rfl, fun call made => ?_⟩
      cases was_none.symm.trans (h.calls call made)
  | ask op =>
    rw [Use.given?, Option.or_none]
    cases hcall : s.model.call op with
    | error failure =>
      rw [(Use.of_call_error hcall).2]
      exact h
    | ok call =>
      rw [Use.perform, Model.run_of_call hcall]
      refine ⟨h.name, fun made hm => ?_⟩
      rcases List.mem_append.mp hm with earlier | last
      · exact h.calls made earlier
      · obtain rfl := List.mem_singleton.mp last
        exact h.name.symm.trans (Model.collection_of_call hcall)

/-- After more uses the name is the one from before or, if there was none, the first that is given. -/
theorem performAll (h : s.NamedAs name?) (uses : List Use) :
    (Use.performAll a.logged uses s).NamedAs (name?.or (Use.firstName? uses)) := by
  induction uses generalizing s name? with
  | nil =>
    rw [Use.firstName?, List.findSome?_nil, Option.or_none]
    exact h
  | cons u uses ih =>
    have first : Use.firstName? (u :: uses) = u.given?.or (Use.firstName? uses) := by
      rw [Use.firstName?, List.findSome?_cons]
      cases u.given? <;> rfl
    rw [first, ← Option.or_assoc]
    exact ih (h.perform u)

end Session.NamedAs

/-- Whatever is done with a model that was made without a name, its name is the first one that it was
given. A name that is empty or comes later fails and changes nothing, and any other succeeds; as long as
there is no name every operation fails, changes nothing and makes no call; and all calls ever made are
about the collection of that name. Each moment of a run of uses is the end of a shorter one, so all of
this holds at each moment. -/
theorem Model.named_once (a : Adapter σ) (schema : Schema) (options : Options) (start : σ)
    (uses : List Use) (s : Session (σ × List AnyCall))
    (reached : Use.performAll a.logged uses ⟨unnamed schema options, start, []⟩ = s) :
    s.model.name?.map CollectionName.text = Use.firstName? uses ∧
      (∀ text, text = "" ∨ (Use.firstName? uses).isSome →
        (∃ fault, (Use.name text).failure? a.logged s = some (.configuration fault)) ∧
          (Use.name text).perform a.logged s = s) ∧
      (∀ text, text ≠ "" → Use.firstName? uses = none →
        (Use.name text).failure? a.logged s = none) ∧
      (Use.firstName? uses = none → ∀ (result : Type) (op : Operation result),
        (Use.ask op).failure? a.logged s = some (.configuration .nameMissing) ∧
          (Use.ask op).perform a.logged s = s) ∧
      ∀ call ∈ s.state.2, Use.firstName? uses = some call.2.collection := by
  have begun : Session.NamedAs (⟨unnamed schema options, start, []⟩ : Session (σ × List AnyCall)) none :=
    ⟨rfl, nofun⟩
  have now := begun.performAll (a := a) uses
  rw [reached, Option.none_or] at now
  have unnamed (none_yet : Use.firstName? uses = none) : s.model.name? = none := by
    rwa [← now.name, Option.map_eq_none_iff] at none_yet
  refine ⟨now.name, ?_, ?_, ?_, now.calls⟩
  · intro text refused
    have named : text = "" ∨ s.model.name?.isSome := by
      rwa [← now.name, Option.isSome_map] at refused
    obtain ⟨fault, failed⟩ := exists_setName_error named
    obtain ⟨reason, unchanged⟩ := Use.of_setName_error (a := a.logged) failed
    exact ⟨⟨fault, reason⟩, unchanged⟩
  · intro text nonempty none_yet
    simp only [Use.failure?, setName_of_unnamed (unnamed none_yet) nonempty]
  · intro none_yet result op
    exact Use.of_call_error (call_of_unnamed (unnamed none_yet) op)

/-- A model is asked for something, gets an empty name, a name and another name, and is asked again
after each. -/
def namings : List Use :=
  [.ask (.delete "a"), .name "", .ask (.delete "a"), .name "posts", .ask (.delete "a"), .name "drafts",
    .ask (.getOne "b")]

theorem Model.named_once_posts :
    ((Use.ask (.getOne "b")).failure? (Recorder.adapter none).logged
        (Use.performAll (Recorder.adapter none).logged (namings.take 3)
          ⟨unnamed ∅ .standard, [], []⟩) = some (.configuration .nameMissing)) ∧
      ∃ s, Use.performAll (Recorder.adapter none).logged namings ⟨unnamed ∅ .standard, [], []⟩ = s ∧
        s.model.name?.map CollectionName.text = some "posts" ∧
        (Use.name "drafts").perform (Recorder.adapter none).logged s = s ∧
        s.state.2.length = 2 ∧ ∀ call ∈ s.state.2, some "posts" = some call.2.collection := by
  obtain ⟨-, -, -, refused, -⟩ :=
    named_once (Recorder.adapter none) ∅ .standard [] (namings.take 3) _ rfl
  obtain ⟨name, renamed, -, -, calls⟩ :=
    named_once (Recorder.adapter none) ∅ .standard [] namings _ rfl
  exact ⟨(refused rfl _ (.getOne "b")).1, _, rfl, name, (renamed "drafts" (.inr rfl)).2, rfl, calls⟩

end Docstore
