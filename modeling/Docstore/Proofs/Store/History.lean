import Docstore.Proofs.Store.Write

/-!
# What a history leaves

A store in memory is known by its history: the writes of its seed, then those of the calls it
answered. At each place only the last put counts and what was written there after it.
`Write.LastPut` splits a history at that put, and `Write.Gone` says when nothing is left: there was no
put, or a drop came after the last one.

`Memory.explained_by_history` is the law of a whole run. Reading finds the last put document under
the changes that came after it, in their order, so that each field has the value that was given to it
last (`Write.get?_merged`), and finds nothing exactly when the document is gone;
an update fails exactly then, too; creating and deleting never fail; and a listing without constraints
shows exactly what can be read, in the order of the identifiers. What is not in the history of a place
has no part in it: the other places, the documents before the last put, and the updates that failed.

The proof reads the effects of a history from its front. `Memory.find?_run` has turned the store into
those effects already, so only lists of writes are left to look at.
-/

namespace Docstore

namespace Write

variable {collection id : String} {ws : List Write} {found? : Option Document}

/-- The last put at a place is of a document, and other writes come after it. -/
def LastPut (collection id : String) (ws : List Write) (d : Document) (after : List Write) : Prop :=
  ∃ before, ws = before ++ .put collection id d :: after ∧ ∀ e, .put collection id e ∉ after

/-- The document at a place is gone: it was never put there, or it was dropped after its last put. -/
def Gone (collection id : String) (ws : List Write) : Prop :=
  (∀ d, .put collection id d ∉ ws) ∨
    ∃ d after, LastPut collection id ws d after ∧ .drop collection id ∈ after

/-- The changes that a write merges at a place. -/
def changes? (collection id : String) : Write → Option Document
  | .merge c i changes => if c = collection ∧ i = id then some changes else none
  | _ => none

/-- A document under the changes that writes merge at its place, later ones on top. -/
def merged (collection id : String) (d : Document) (ws : List Write) : Document :=
  (ws.filterMap (changes? collection id)).foldl Table.overlay d

/-- The value that a field has in the last of the changes merged at a place that have the field. -/
def lastGiven? (collection id : String) (ws : List Write) (name : String) : Option Value :=
  (ws.filterMap (changes? collection id)).reverse.findSome? fun changes => changes.get? name

theorem get?_foldl_overlay {d : Document} (later : List Document) (name : String) :
    (later.foldl Table.overlay d).get? name =
      (later.reverse.findSome? fun changes => changes.get? name).or (d.get? name) := by
  induction later generalizing d with
  | nil => rfl
  | cons changes later ih =>
    rw [List.foldl_cons, ih, Table.get?_overlay, ← Option.or_assoc, List.reverse_cons,
      List.findSome?_append, List.findSome?_singleton]

/-- A field has the value of the last change that has the field, and else that of the document. -/
theorem get?_merged {d : Document} (name : String) : (merged collection id d ws).get? name =
    (lastGiven? collection id ws name).or (d.get? name) :=
  get?_foldl_overlay _ name

/-! ## Effects, from the front -/

/-- Where nothing is put, nothing comes to be. -/
theorem effects_none_of_no_put (h : ∀ d, .put collection id d ∉ ws) :
    effects collection id ws none = none := by
  induction ws with
  | nil => rfl
  | cons w ws ih =>
    have rest := ih fun d hd => h d (List.mem_cons_of_mem _ hd)
    have first : effect collection id none w = none := by
      cases w with
      | put c i d =>
        refine if_neg fun at_place => h d ?_
        rw [at_place.1, at_place.2]
        exact List.mem_cons_self
      | merge c i changes => exact ite_self none
      | drop c i => exact ite_self none
    exact (congrArg (effects collection id ws) first).trans rest

/-- What is dropped and not put again is not there. -/
theorem effects_of_drop (no_put : ∀ d, .put collection id d ∉ ws)
    (dropped : .drop collection id ∈ ws) : effects collection id ws found? = none := by
  obtain ⟨before, after, rfl⟩ := List.append_of_mem dropped
  have after_drop : effects collection id (.drop collection id :: after) =
      fun _ => effects collection id after none := by
    funext found?
    show effects collection id after (effect collection id found? (.drop collection id)) = _
    rw [effect, if_pos ⟨rfl, rfl⟩]
  rw [effects_append, after_drop]
  exact effects_none_of_no_put fun d hd =>
    no_put d (List.mem_append_right _ (List.mem_cons_of_mem _ hd))

/-- A document that is neither put again nor dropped has the changes merged over it. -/
theorem effects_eq_merged {d : Document} (no_put : ∀ e, .put collection id e ∉ ws)
    (no_drop : .drop collection id ∉ ws) :
    effects collection id ws (some d) = some (merged collection id d ws) := by
  induction ws generalizing d with
  | nil => rfl
  | cons w ws ih =>
    have rest := fun d => @ih d (fun e he => no_put e (List.mem_cons_of_mem _ he))
      fun h => no_drop (List.mem_cons_of_mem _ h)
    show effects collection id ws (effect collection id (some d) w) = _
    cases w with
    | put c i e =>
      have elsewhere : ¬ (c = collection ∧ i = id) := by
        rintro ⟨rfl, rfl⟩
        exact no_put e List.mem_cons_self
      rw [effect, if_neg elsewhere, rest]
      rfl
    | merge c i changes =>
      rw [effect, merged, List.filterMap_cons, changes?]
      split
      · rw [Option.map_some, rest]
        rfl
      · rw [rest]
        rfl
    | drop c i =>
      have elsewhere : ¬ (c = collection ∧ i = id) := by
        rintro ⟨rfl, rfl⟩
        exact no_drop List.mem_cons_self
      rw [effect, if_neg elsewhere, rest]
      rfl

/-! ## The last put -/

/-- Where something was put, there is a last put. -/
theorem exists_lastPut {d : Document} (h : .put collection id d ∈ ws) :
    ∃ e after, LastPut collection id ws e after := by
  induction ws generalizing d with
  | nil => cases h
  | cons w ws ih =>
    by_cases later : ∃ e, .put collection id e ∈ ws
    · obtain ⟨e, he⟩ := later
      obtain ⟨f, after, before, split_at, last⟩ := ih he
      exact ⟨f, after, w :: before, congrArg (w :: ·) split_at, last⟩
    · have head : .put collection id d = w :=
        (List.mem_cons.mp h).resolve_right fun hd => later ⟨d, hd⟩
      exact ⟨d, ws, [], congrArg (· :: ws) head.symm, fun e he => later ⟨e, he⟩⟩

/-- Nothing that came before the last put has a part in what comes after it. -/
theorem effects_of_lastPut {d : Document} {after : List Write}
    (h : LastPut collection id ws d after) :
    effects collection id ws found? = effects collection id after (some d) := by
  obtain ⟨before, rfl, -⟩ := h
  rw [effects_append]
  show effects collection id after (effect collection id _ (.put collection id d)) = _
  rw [effect, if_pos ⟨rfl, rfl⟩]

/-- A document that is not gone was put, not dropped since, and is there under the changes since. -/
theorem effects_of_not_gone (h : ¬ Gone collection id ws) :
    ∃ d after, LastPut collection id ws d after ∧ .drop collection id ∉ after ∧
      effects collection id ws none = some (merged collection id d after) := by
  obtain ⟨was_put, not_dropped⟩ := not_or.mp h
  obtain ⟨d, hd⟩ := Classical.not_forall_not.mp was_put
  obtain ⟨e, after, last⟩ := exists_lastPut hd
  have no_drop : .drop collection id ∉ after := fun hdrop => not_dropped ⟨e, after, last, hdrop⟩
  refine ⟨e, after, last, no_drop, ?_⟩
  rw [effects_of_lastPut last]
  obtain ⟨_, _, no_put⟩ := last
  exact effects_eq_merged no_put no_drop

theorem effects_eq_none_iff : effects collection id ws none = none ↔ Gone collection id ws := by
  constructor
  · intro nothing
    refine Classical.byContradiction fun there => ?_
    obtain ⟨_, _, _, _, found⟩ := effects_of_not_gone there
    rw [nothing] at found
    cases found
  · rintro (never | ⟨d, after, last, dropped⟩)
    · exact effects_none_of_no_put never
    · rw [effects_of_lastPut last]
      obtain ⟨_, _, no_put⟩ := last
      exact effects_of_drop no_put dropped

end Write

/-! ## Listings without constraints -/

namespace StoredDocument

theorem filter_nil (ds : List StoredDocument) : filter [] ds = .ok ds := by
  induction ds with
  | nil => rfl
  | cons d ds ih =>
    rw [filter, ih]
    rfl

theorem sortBy_nil (ds : List StoredDocument) : sortBy [] ds = ds :=
  List.mergeSort_of_pairwise (List.pairwise_of_forall fun _ _ => rfl)

/-- Without constraints every document is selected, in the order there was. -/
theorem select_nil (ds : List StoredDocument) : select [] ds = .ok ds := by
  rw [select, filter_nil]
  exact congrArg Except.ok (sortBy_nil ds)

end StoredDocument

namespace Store

theorem ids_stored (s : Store) (collection : String) :
    (s.stored collection).map StoredDocument.id = (s.documents collection).keys := by
  rw [stored, List.map_map]
  rfl

theorem mem_stored_iff {s : Store} {collection : String} {x : StoredDocument} :
    x ∈ s.stored collection ↔ s.find? collection x.id = some x.fields := by
  rw [find?, ← Table.mem_entries_iff, stored, List.mem_map]
  constructor
  · rintro ⟨e, he, rfl⟩
    exact he
  · exact fun h => ⟨(x.id, x.fields), h, rfl⟩

end Store

/-! ## Answers after a run -/

/-- A history explains how calls about a collection are answered. -/
structure Explains (ws : List Write) (collection : String)
    (answer : {α : Type} → Call α → Except Failure α) : Prop where
  read_gone : ∀ id,
    answer (.read collection id) = .error (.notFound id collection) ↔ Write.Gone collection id ws
  read_there : ∀ id, ¬ Write.Gone collection id ws →
    ∃ d after, Write.LastPut collection id ws d after ∧ .drop collection id ∉ after ∧
      answer (.read collection id) = .ok ⟨id, Write.merged collection id d after⟩ ∧
      ∀ name, (Write.merged collection id d after).get? name =
        (Write.lastGiven? collection id after name).or (d.get? name)
  update_gone : ∀ id changes,
    answer (.update collection id changes) = .error (.notFound id collection) ↔
      Write.Gone collection id ws
  update_there : ∀ id changes, ¬ Write.Gone collection id ws →
    answer (.update collection id changes) = .ok ()
  create : ∀ d id?, ∃ id, answer (.create collection d id?) = .ok id ∧ ∀ i, id? = some i → id = i
  delete : ∀ id, answer (.delete collection id) = .ok ()
  list : ∃ ds, answer (.list collection []) = .ok ds ∧
    (ds.map StoredDocument.id).Pairwise (· < ·) ∧
    ∀ x, x ∈ ds ↔ answer (.read collection x.id) = .ok x

namespace Store

/-- A store is explained by every history with the same effects. -/
theorem explained {s : Store} {ws : List Write} {collection : String} (fresh : String)
    (h : ∀ id, s.find? collection id = Write.effects collection id ws none) :
    Explains ws collection fun call => (answer fresh call s).1 where
  read_gone id := by
    rw [← Write.effects_eq_none_iff, ← h id]
    cases hs : s.find? collection id with
    | none => simp [answer_read_missing hs, missing]
    | some d => simp [answer_read_found hs]
  read_there id there := by
    obtain ⟨d, after, last, no_drop, found⟩ := Write.effects_of_not_gone there
    rw [← h id] at found
    exact ⟨d, after, last, no_drop, congrArg Prod.fst (answer_read_found found), Write.get?_merged⟩
  update_gone id changes := by
    rw [← Write.effects_eq_none_iff, ← h id]
    cases hs : s.find? collection id with
    | none => simp [answer_update_missing hs, missing]
    | some d => simp [answer_update_found hs]
  update_there id changes there := by
    obtain ⟨d, after, _, _, found⟩ := Write.effects_of_not_gone there
    rw [← h id] at found
    exact congrArg Prod.fst (answer_update_found found)
  create d id? := ⟨id?.getD fresh, rfl, fun i hi => by rw [hi, Option.getD_some]⟩
  delete id := rfl
  list := by
    refine ⟨s.stored collection, StoredDocument.select_nil _, ?_, fun x => ?_⟩
    · rw [ids_stored]
      exact (s.documents collection).sorted
    · rw [mem_stored_iff]
      obtain ⟨id, fields⟩ := x
      cases hs : s.find? collection id with
      | none => simp [answer_read_missing hs]
      | some d => simp [answer_read_found hs]

end Store

namespace Memory

/-- After any run on any seed, a store answers as the last writes of its history say. A run that goes
on starts from such a state, so this holds of every call of a run, at its moment. -/
theorem explained_by_history (newId : Nat → String) (seed : List (String × String × Document))
    (calls : List AnyCall) (collection : String) :
    Explains (seedWrites seed ++ (adapter newId).history calls (ofSeed seed)) collection
      fun call => ((adapter newId).answer call ((adapter newId).run calls (ofSeed seed))).1 := by
  refine Store.explained (newId ((adapter newId).run calls (ofSeed seed)).made) fun id => ?_
  rw [find?_run, find?_ofSeed, Write.effects_append]

end Memory

end Docstore
