import Docstore.Proofs.Store.Write

/-!
# What a store consists of

A store has collections, and documents at places of these; a collection may have no documents.
Nothing else is in a store: two stores with the same collections and the same document at each place
are equal (`Store.eq_of_find?_eq`). `Store.find?_answer` says what a call makes of the documents, and
`Store.hasCollection_answer` what it makes of the collections: one appears where a document is put,
and none ever goes. The laws about whole stores rest on these three.
-/

namespace Docstore

namespace Write

variable {collection id : String} {found? : Option Document}

/-- Where a write is made: a collection and an identifier. -/
def place : Write → String × String
  | .put collection id _ => (collection, id)
  | .merge collection id _ => (collection, id)
  | .drop collection id => (collection, id)

/-- A write changes nothing but its own place. -/
theorem effect_of_place_ne {w : Write} (elsewhere : w.place ≠ (collection, id)) :
    effect collection id found? w = found? := by
  cases w with
  | put c i d => exact if_neg fun h => elsewhere (Prod.ext h.1 h.2)
  | merge c i changes => exact if_neg fun h => elsewhere (Prod.ext h.1 h.2)
  | drop c i => exact if_neg fun h => elsewhere (Prod.ext h.1 h.2)

/-- Writes change nothing but their own places. -/
theorem effects_of_place_ne {ws : List Write} (elsewhere : ∀ w ∈ ws, w.place ≠ (collection, id)) :
    effects collection id ws found? = found? := by
  induction ws with
  | nil => rfl
  | cons w ws ih =>
    obtain ⟨first, rest⟩ := List.forall_mem_cons.mp elsewhere
    exact (congrArg (effects collection id ws) (effect_of_place_ne first)).trans (ih rest)

end Write

namespace Store

variable {s t : Store} {collection id : String}

/-- Whether there is a collection of a name, with documents or without. -/
def HasCollection (s : Store) (collection : String) : Prop :=
  s.collections.contains collection = true

instance (s : Store) (collection : String) : Decidable (s.HasCollection collection) :=
  inferInstanceAs (Decidable (s.collections.contains collection = true))

/-- Where there is a document, there is a collection. -/
theorem hasCollection_of_find? {d : Document} (h : s.find? collection id = some d) :
    s.HasCollection collection := by
  unfold HasCollection Table.contains
  cases hs : s.collections.get? collection with
  | none =>
    rw [find?, documents, hs] at h
    cases h
  | some ds => rfl

/-- A store is known by its collections and by the documents at its places. -/
theorem eq_of_find?_eq (collections : ∀ c, s.HasCollection c ↔ t.HasCollection c)
    (documents : ∀ c i, s.find? c i = t.find? c i) : s = t := by
  have tables (c : String) : s.collections.get? c = t.collections.get? c := by
    have named := collections c
    have equal : s.documents c = t.documents c := Table.ext_get? (documents c)
    unfold HasCollection Table.contains at named
    unfold Store.documents at equal
    cases hs : s.collections.get? c with
    | none =>
      cases ht : t.collections.get? c with
      | none => rfl
      | some es => simp [hs, ht] at named
    | some ds =>
      cases ht : t.collections.get? c with
      | none => simp [hs, ht] at named
      | some es =>
        rw [hs, ht] at equal
        exact congrArg some equal
  exact congrArg Store.mk (Table.ext_get? tables)

theorem hasCollection_put {d : Document} {c : String} :
    (s.put collection id d).HasCollection c ↔ s.HasCollection c ∨ c = collection := by
  unfold HasCollection Table.contains put
  rw [Table.get?_insert]
  split
  · next here => simp [here]
  · next elsewhere => simp [elsewhere]

theorem hasCollection_remove {c : String} :
    (s.remove collection id).HasCollection c ↔ s.HasCollection c := by
  cases hs : s.collections.get? collection with
  | none => simp only [remove, hs]
  | some ds =>
    simp only [remove, hs, HasCollection, Table.contains, Table.get?_insert]
    split
    · next here => simp [here, hs]
    · rfl

/-- What is put where it is already changes nothing. -/
theorem put_eq_self {d : Document} (h : s.find? collection id = some d) :
    s.put collection id d = s := by
  refine eq_of_find?_eq (fun c => ?_) fun c i => ?_
  · rw [hasCollection_put]
    refine or_iff_left_of_imp fun here => ?_
    exact here ▸ hasCollection_of_find? h
  · rw [find?_put]
    split
    · next here => rw [← here.1, ← here.2, h]
    · rfl

/-- After a call there are the collections from before, and one where the call put a document. -/
theorem hasCollection_answer (fresh : String) (call : Call α) (s : Store) (c : String) :
    (answer fresh call s).2.HasCollection c ↔
      s.HasCollection c ∨ ∃ id d, .put c id d ∈ call.writes (answer fresh call s).1 := by
  cases call with
  | list collection cs => simp [answer, Call.writes]
  | read collection id =>
    cases hs : s.find? collection id with
    | none => simp [answer_read_missing hs, Call.writes]
    | some d => simp [answer_read_found hs, Call.writes]
  | create collection d id? =>
    rw [answer, hasCollection_put]
    simp [Call.writes]
  | update collection id changes =>
    cases hs : s.find? collection id with
    | none => simp [answer_update_missing hs, Call.writes]
    | some d =>
      rw [answer_update_found hs, hasCollection_put]
      have there : c = collection → s.HasCollection c := fun here => here ▸ hasCollection_of_find? hs
      simp [Call.writes, or_iff_left_of_imp there]
  | delete collection id =>
    rw [answer, hasCollection_remove]
    simp [Call.writes]

end Store

end Docstore
