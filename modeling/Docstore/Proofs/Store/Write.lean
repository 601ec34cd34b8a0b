import Docstore.Store.Memory
import Docstore.Store.Recorder

/-!
# What a call writes

A store is looked into at places: a collection and an identifier. `Call.writes` is what a call asks
to be written, once its answer is known, and `Write.effect` is what one write makes of one place.
`Store.find?_answer` says once what any call does to any place: it has the effect of its writes there,
and none elsewhere. Every law about runs of calls rests on that equation, and none of them looks into
the tables of a store again.

`Adapter.history` collects the writes of a run. A document that is created without an identifier
enters the history under the one that it was answered with.
-/

namespace Docstore

/-- A write at one place of a store. -/
inductive Write where
  | put (collection id : String) (d : Document)
  | merge (collection id : String) (changes : Document)
  | drop (collection id : String)

namespace Write

/-- What a write makes of the document at a place. Changes to a document that is not there are
lost. -/
def effect (collection id : String) (found? : Option Document) : Write → Option Document
  | .put c i d => if c = collection ∧ i = id then some d else found?
  | .merge c i changes =>
    if c = collection ∧ i = id then found?.map (·.overlay changes) else found?
  | .drop c i => if c = collection ∧ i = id then none else found?

/-- What writes make, one after another, of the document at a place. -/
def effects (collection id : String) (ws : List Write) (found? : Option Document) :
    Option Document :=
  ws.foldl (effect collection id) found?

theorem effects_append {c i : String} {ws us : List Write} {found? : Option Document} :
    effects c i (ws ++ us) found? = effects c i us (effects c i ws found?) :=
  List.foldl_append

end Write

/-- What a call asks to be written, once its answer is known. -/
def Call.writes : Call α → Except Failure α → List Write
  | .create collection d _, .ok id => [.put collection id d]
  | .update collection id changes, _ => [.merge collection id changes]
  | .delete collection id, _ => [.drop collection id]
  | _, _ => []

namespace Adapter

/-- The state to which calls lead, one after another. All clones of an adapter share its state, so a
run does not say which of them makes a call. -/
def run (a : Adapter σ) (calls : List AnyCall) (s : σ) : σ :=
  calls.foldl (fun s call => (a.answer call.2 s).2) s

/-- What the calls of a run ask to be written, in their order. -/
def history (a : Adapter σ) : List AnyCall → σ → List Write
  | [], _ => []
  | call :: calls, s =>
    call.2.writes (a.answer call.2 s).1 ++ a.history calls (a.answer call.2 s).2

end Adapter

namespace Store

variable {s : Store} {collection id : String}

theorem documents_put {d : Document} (c : String) :
    (s.put collection id d).documents c =
      if c = collection then (s.documents collection).insert id d else s.documents c := by
  unfold documents put
  rw [Table.get?_insert]
  split <;> rfl

theorem find?_put {d : Document} (c i : String) :
    (s.put collection id d).find? c i =
      if collection = c ∧ id = i then some d else s.find? c i := by
  unfold find?
  rw [documents_put]
  by_cases hc : c = collection
  · subst hc
    rw [if_pos rfl, Table.get?_insert]
    simp only [true_and, @eq_comm _ id]
  · rw [if_neg hc, if_neg fun h => hc h.1.symm]

theorem documents_remove (c : String) :
    (s.remove collection id).documents c =
      if c = collection then (s.documents collection).erase id else s.documents c := by
  cases hs : s.collections.get? collection with
  | none =>
    have same : s.remove collection id = s := by simp only [remove, hs]
    have no_documents : s.documents collection = ∅ := by rw [documents, hs, Option.getD_none]
    rw [same, no_documents]
    split
    · next hc => rw [hc, no_documents]; rfl
    · rfl
  | some ds =>
    simp only [remove, documents, hs, Table.get?_insert, Option.getD_some]
    split <;> rfl

theorem find?_remove (c i : String) :
    (s.remove collection id).find? c i =
      if collection = c ∧ id = i then none else s.find? c i := by
  unfold find?
  rw [documents_remove]
  by_cases hc : c = collection
  · subst hc
    rw [if_pos rfl, Table.get?_erase]
    simp only [true_and, @eq_comm _ id]
  · rw [if_neg hc, if_neg fun h => hc h.1.symm]

theorem answer_read_found {fresh : String} {d : Document} (h : s.find? collection id = some d) :
    answer fresh (.read collection id) s = (.ok ⟨id, d⟩, s) := by
  simp only [answer, h]

theorem answer_read_missing {fresh : String} (h : s.find? collection id = none) :
    answer fresh (.read collection id) s = (.error (missing collection id), s) := by
  simp only [answer, h]

theorem answer_update_found {fresh : String} {d changes : Document}
    (h : s.find? collection id = some d) :
    answer fresh (.update collection id changes) s =
      (.ok (), s.put collection id (d.overlay changes)) := by
  simp only [answer, h]

theorem answer_update_missing {fresh : String} {changes : Document}
    (h : s.find? collection id = none) :
    answer fresh (.update collection id changes) s = (.error (missing collection id), s) := by
  simp only [answer, h]

/-- A call has at each place the effect of its writes. -/
theorem find?_answer (fresh : String) (call : Call α) (s : Store) (c i : String) :
    (answer fresh call s).2.find? c i =
      Write.effects c i (call.writes (answer fresh call s).1) (s.find? c i) := by
  cases call with
  | list => rfl
  | read collection id =>
    cases hs : s.find? collection id with
    | none => rw [answer_read_missing hs]; rfl
    | some d => rw [answer_read_found hs]; rfl
  | create collection d id? => exact find?_put c i
  | update collection id changes =>
    show _ = if collection = c ∧ id = i then (s.find? c i).map (·.overlay changes) else s.find? c i
    cases hs : s.find? collection id with
    | none =>
      rw [answer_update_missing hs]
      split
      · next h => rw [← h.1, ← h.2, hs]; rfl
      · rfl
    | some d =>
      rw [answer_update_found hs, find?_put]
      split
      · next h => rw [← h.1, ← h.2, hs]; rfl
      · rfl
  | delete collection id => exact find?_remove c i

end Store

namespace Memory

/-- A run has at each place the effect of its history. -/
theorem find?_run (newId : Nat → String) (calls : List AnyCall) (m : Memory) (c i : String) :
    ((adapter newId).run calls m).store.find? c i =
      Write.effects c i ((adapter newId).history calls m) (m.store.find? c i) := by
  induction calls generalizing m with
  | nil => rfl
  | cons call calls ih =>
    have step := Store.find?_answer (newId m.made) call.2 m.store c i
    rw [Adapter.history, Write.effects_append]
    exact (ih _).trans (congrArg (Write.effects c i _) step)

/-- The writes of a seed. -/
def seedWrites (seed : List (String × String × Document)) : List Write :=
  seed.map fun e => .put e.1 e.2.1 e.2.2

/-- A seed has at each place of an empty store the effect of its writes. -/
theorem find?_ofSeed (seed : List (String × String × Document)) (c i : String) :
    (ofSeed seed).store.find? c i = Write.effects c i (seedWrites seed) none := by
  have from_any : ∀ s : Store,
      (seed.foldl (fun s e => s.put e.1 e.2.1 e.2.2) s).find? c i =
        Write.effects c i (seedWrites seed) (s.find? c i) := by
    induction seed with
    | nil => exact fun _ => rfl
    | cons e seed ih =>
      intro s
      rw [List.foldl_cons, ih, Store.find?_put]
      rfl
  exact from_any .empty

end Memory

end Docstore
