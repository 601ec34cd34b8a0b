import Docstore.Proofs.Store.Extent

/-!
# Independent writes

A caller that names its identifiers writes in three ways: it puts a document, merges changes into one,
or drops one. `Write.call` is the call for a write, and such a call asks for that write and no other.

Two writes are independent if they are made at different places, or if both merge changes into the
same document and give values to different fields. Independent writes commute on every store
(`Memory.commutes_of_independent`): both orders lead to the same store, and each of the two is answered
as if the other had not been made. The store is the same because its documents are
(`Write.effect_comm`) and because collections come with the writes, whatever their order. The answers
are the same because the answer to a write hangs on nothing but whether there is a document at its
place, and an independent write does not change that.
-/

namespace Docstore

/-- Changes to different fields may be put over a table in either order. -/
theorem Table.overlay_comm {α : Type} {t p q : Table α}
    (disjoint : ∀ n, p.contains n = true → q.contains n = false) :
    (t.overlay p).overlay q = (t.overlay q).overlay p := by
  refine Table.ext_get? fun n => ?_
  have apart := disjoint n
  unfold Table.contains at apart
  rw [get?_overlay, get?_overlay, get?_overlay, get?_overlay]
  cases hp : p.get? n with
  | none => simp only [Option.none_or]
  | some a =>
    have absent : q.get? n = none := by
      simpa [hp] using apart
    simp only [absent, Option.none_or, Option.some_or]

namespace Write

/-! ## Writes as calls -/

/-- What the call for a write answers when it succeeds. -/
def Result : Write → Type
  | .put _ _ _ => String
  | .merge _ _ _ => Unit
  | .drop _ _ => Unit

/-- The call for a write. A document is put under an identifier of the caller's. -/
def call : (w : Write) → Call w.Result
  | .put collection id d => .create collection d (some id)
  | .merge collection id changes => .update collection id changes
  | .drop collection id => .delete collection id

/-- The call for a write asks for that write and no other. -/
theorem writes_call (w : Write) (fresh : String) (s : Store) :
    w.call.writes (Store.answer fresh w.call s).1 = [w] := by
  cases w <;> rfl

/-! ## Independence -/

/-- Two writes do not meet: they are made at different places, or give values to different fields of
one document. -/
inductive Independent : Write → Write → Prop
  | apart {w u : Write} (elsewhere : w.place ≠ u.place) : Independent w u
  | together {collection id : String} {p q : Document}
    (disjoint : ∀ n, p.contains n = true → q.contains n = false) :
    Independent (.merge collection id p) (.merge collection id q)

theorem Independent.symm {w u : Write} (h : w.Independent u) : u.Independent w := by
  cases h with
  | apart elsewhere => exact .apart fun same => elsewhere same.symm
  | together disjoint =>
    refine .together fun n there => ?_
    exact Bool.eq_false_iff.mpr fun here => by rw [disjoint n here] at there; cases there

variable {w u : Write} {collection id : String} {found? : Option Document}

theorem effect_merge_here {changes : Document} :
    effect collection id found? (.merge collection id changes) =
      found?.map (·.overlay changes) :=
  if_pos ⟨rfl, rfl⟩

/-- At each place, two independent writes have the same effect in either order. -/
theorem effect_comm (h : w.Independent u) :
    effect collection id (effect collection id found? w) u =
      effect collection id (effect collection id found? u) w := by
  cases h with
  | apart elsewhere =>
    by_cases here : w.place = (collection, id)
    · have there : u.place ≠ (collection, id) := fun same => elsewhere (here.trans same.symm)
      rw [effect_of_place_ne there, effect_of_place_ne there]
    · rw [effect_of_place_ne here, effect_of_place_ne here]
  | @together c i p q disjoint =>
    by_cases here : (c, i) = (collection, id)
    · cases here
      rw [effect_merge_here, effect_merge_here, effect_merge_here, effect_merge_here]
      cases found? with
      | none => rfl
      | some d => exact congrArg some (Table.overlay_comm disjoint)
    · have first : (merge c i p).place ≠ (collection, id) := here
      have second : (merge c i q).place ≠ (collection, id) := here
      rw [effect_of_place_ne first, effect_of_place_ne second, effect_of_place_ne first]

/-- Whether there is a document at the place of a write is nothing that an independent write
changes. -/
theorem isSome_effect (h : w.Independent u) :
    (effect w.place.1 w.place.2 found? u).isSome = found?.isSome := by
  cases h with
  | apart elsewhere =>
    have other : u.place ≠ (w.place.1, w.place.2) := fun same => elsewhere same.symm
    rw [effect_of_place_ne other]
  | @together c i p q disjoint =>
    show (effect c i found? (.merge c i q)).isSome = found?.isSome
    rw [effect_merge_here, Option.isSome_map]

end Write

namespace Store

variable {w u : Write} {fresh : String} {s t : Store}

theorem find?_answer_call (w : Write) (c i : String) :
    (answer fresh w.call s).2.find? c i = Write.effect c i (s.find? c i) w := by
  rw [find?_answer, Write.writes_call]
  rfl

theorem hasCollection_answer_call (w : Write) (c : String) :
    (answer fresh w.call s).2.HasCollection c ↔ s.HasCollection c ∨ ∃ id d, .put c id d = w := by
  rw [hasCollection_answer, Write.writes_call]
  simp only [List.mem_singleton]

/-- The answer to a write hangs on whether there is a document at its place. -/
theorem answer_call_congr
    (same : (s.find? w.place.1 w.place.2).isSome = (t.find? w.place.1 w.place.2).isSome) :
    (answer fresh w.call s).1 = (answer fresh w.call t).1 := by
  cases w with
  | put collection id d => rfl
  | merge collection id changes =>
    show (answer fresh (.update collection id changes) s).1 =
      (answer fresh (.update collection id changes) t).1
    replace same : (s.find? collection id).isSome = (t.find? collection id).isSome := same
    cases hs : s.find? collection id with
    | none =>
      have ht : t.find? collection id = none := by
        simpa [hs] using same
      rw [answer_update_missing hs, answer_update_missing ht]
    | some d =>
      obtain ⟨e, ht⟩ : ∃ e, t.find? collection id = some e := by
        simpa [hs, Option.isSome_iff_exists] using same.symm
      rw [answer_update_found hs, answer_update_found ht]
  | drop collection id => rfl

/-- A write is answered as if an independent one had not been made. -/
theorem answer_call_of_independent (h : w.Independent u) :
    (answer fresh w.call (answer fresh u.call s).2).1 = (answer fresh w.call s).1 := by
  refine answer_call_congr ?_
  rw [find?_answer_call, Write.isSome_effect h]

/-- Two independent writes lead to the same store in either order. -/
theorem answer_call_comm (h : w.Independent u) :
    (answer fresh u.call (answer fresh w.call s).2).2 =
      (answer fresh w.call (answer fresh u.call s).2).2 := by
  refine eq_of_find?_eq (fun c => ?_) fun c i => ?_
  · simp only [hasCollection_answer_call]
    exact or_right_comm
  · simp only [find?_answer_call]
    exact Write.effect_comm h

end Store

/-- In either order two writes lead to the same state, and each is answered as if the other had not been
made. -/
structure Adapter.Commutes (a : Adapter σ) (s : σ) (w u : Write) : Prop where
  state : (a.answer u.call (a.answer w.call s).2).2 = (a.answer w.call (a.answer u.call s).2).2
  first : (a.answer w.call (a.answer u.call s).2).1 = (a.answer w.call s).1
  second : (a.answer u.call (a.answer w.call s).2).1 = (a.answer u.call s).1

namespace Memory

/-- No identifier is made up for a write. -/
theorem answer_call (newId : Nat → String) (w : Write) (m : Memory) :
    (adapter newId).answer w.call m =
      ((Store.answer (newId m.made) w.call m.store).1,
        ⟨(Store.answer (newId m.made) w.call m.store).2, m.made⟩) := by
  cases w <;> rfl

theorem commutes_of_independent (newId : Nat → String) (m : Memory) {w u : Write}
    (h : w.Independent u) : (adapter newId).Commutes m w u where
  state := by
    simp only [answer_call]
    rw [Store.answer_call_comm h]
  first := by
    simp only [answer_call]
    exact Store.answer_call_of_independent h
  second := by
    simp only [answer_call]
    exact Store.answer_call_of_independent h.symm

end Memory

end Docstore
