import Docstore.Proofs.Store.Independence
import Mathlib.Data.List.Sigma

/-!
# Interleavings

Several clients write to one store, each making its writes one after another. A `Turn` is one write of
one client; `Interleaves` says that a list of turns gives each client its writes, in its own order, and
leaves the rest to chance. Two interleavings may differ in the order of any turns of different clients.
Where they differ in the order of independent writes alone (`Reordered`), it makes no difference: they
lead to the same store, and every turn is answered the same (`Memory.independent_writes_commute`).

The induction is on the one interleaving. In the other, its first turn stands behind turns that are
independent of it, so swaps of neighbours bring it to the front (`Indistinct.toFront`); what is left of
the two is reordered in the same way.

An update that succeeded is not lost in any interleaving: a field that it gave a value keeps the value
until a write gives it another one, or puts or drops the document.
-/

namespace Docstore

/-! ## Turns of clients -/

/-- A write of a client: which one it is of the client's own, and what it writes. -/
structure Turn where
  client : Nat
  number : Nat
  write : Write

namespace Turn

/-- The turns of a client that makes writes one after another. -/
def ofClient (client : Nat) (ws : List Write) : List Turn :=
  ws.zipIdx.map fun e => ⟨client, e.2, e.1⟩

/-- The calls of turns. -/
def calls (ts : List Turn) : List AnyCall := ts.map fun t => ⟨_, t.write.call⟩

/-- The clients' writes, in some order that leaves each client its own. -/
def Interleaves (clients : Nat → List Write) (ts : List Turn) : Prop :=
  ∀ client, ts.filter (fun t => t.client = client) = ofClient client (clients client)

/-- Of two turns that come in different orders, neither meets the other. -/
def Reordered (ts us : List Turn) : Prop :=
  ∀ t u, [t, u].Sublist ts → [u, t].Sublist us → t.write.Independent u.write

theorem nodup_ofClient (client : Nat) (ws : List Write) : (ofClient client ws).Nodup := by
  refine List.Nodup.of_map number ?_
  rw [ofClient, List.map_map]
  exact List.nodup_zipIdx_map_snd ws

open Classical in
theorem count_eq_of_interleaves {clients : Nat → List Write} {ts : List Turn}
    (h : Interleaves clients ts) (t : Turn) :
    ts.count t = (ofClient t.client (clients t.client)).count t := by
  rw [← h, List.count_filter (by simp)]

theorem Interleaves.nodup {clients : Nat → List Write} {ts : List Turn} (h : Interleaves clients ts) :
    ts.Nodup := by
  classical
  refine List.nodup_iff_count_le_one.mpr fun t => ?_
  rw [count_eq_of_interleaves h]
  exact List.nodup_iff_count_le_one.mp (nodup_ofClient _ _) t

/-- Two interleavings of the same writes have the same turns. -/
theorem Interleaves.perm {clients : Nat → List Write} {ts us : List Turn}
    (ht : Interleaves clients ts) (hu : Interleaves clients us) : ts.Perm us := by
  classical
  refine List.perm_iff_count.mpr fun t => ?_
  rw [count_eq_of_interleaves ht, count_eq_of_interleaves hu]

end Turn

/-! ## Runs of turns -/

namespace Adapter

/-- How the turns of a run are answered, one after another. -/
def answers (a : Adapter σ) : List Turn → σ → List ((t : Turn) × Except Failure t.write.Result)
  | [], _ => []
  | t :: ts, s => ⟨t, (a.answer t.write.call s).1⟩ :: a.answers ts (a.answer t.write.call s).2

/-- Two runs cannot be told apart: they lead to the same state, and their turns have the same
answers. -/
def Indistinct (a : Adapter σ) (ts us : List Turn) : Prop :=
  ∀ s, a.run (Turn.calls ts) s = a.run (Turn.calls us) s ∧ (a.answers ts s).Perm (a.answers us s)

namespace Indistinct

variable {a : Adapter σ} {t u : Turn} {ts us vs : List Turn}

theorem refl (ts : List Turn) : a.Indistinct ts ts := fun _ => ⟨rfl, .rfl⟩

theorem trans (h : a.Indistinct ts us) (h' : a.Indistinct us vs) : a.Indistinct ts vs :=
  fun s => ⟨(h s).1.trans (h' s).1, (h s).2.trans (h' s).2⟩

theorem symm (h : a.Indistinct ts us) : a.Indistinct us ts :=
  fun s => ⟨(h s).1.symm, (h s).2.symm⟩

theorem cons (t : Turn) (h : a.Indistinct ts us) : a.Indistinct (t :: ts) (t :: us) :=
  fun s => ⟨(h (a.answer t.write.call s).2).1, (h (a.answer t.write.call s).2).2.cons _⟩

/-- Neighbours that commute may change places. -/
theorem swap (commute : ∀ s, a.Commutes s t.write u.write) (ts : List Turn) :
    a.Indistinct (t :: u :: ts) (u :: t :: ts) := by
  intro s
  obtain ⟨state, first, second⟩ := commute s
  constructor
  · exact congrArg (a.run (Turn.calls ts)) state
  · simp only [answers]
    rw [state, first, second]
    exact .swap _ _ _

/-- A turn comes to the front past turns that it commutes with. -/
theorem toFront (commute : ∀ t ∈ ts, ∀ s, a.Commutes s t.write u.write) :
    a.Indistinct (ts ++ u :: us) (u :: (ts ++ us)) := by
  induction ts with
  | nil => exact refl _
  | cons t ts ih =>
    obtain ⟨first, rest⟩ := List.forall_mem_cons.mp commute
    exact ((ih rest).cons t).trans (swap first (ts ++ us))

end Indistinct

/-- Runs of the same turns, each made once, that differ in the order of commuting turns alone cannot be
told apart. -/
theorem indistinct_of_reordered {a : Adapter σ}
    (commute : ∀ {w u : Write}, w.Independent u → ∀ s, a.Commutes s w u) {ts us : List Turn}
    (once : ts.Nodup) (same : ts.Perm us) (reordered : Turn.Reordered ts us) :
    a.Indistinct ts us := by
  induction ts generalizing us with
  | nil =>
    obtain rfl := same.nil_eq
    exact .refl _
  | cons t ts ih =>
    obtain ⟨fresh, once⟩ := List.nodup_cons.mp once
    obtain ⟨before, after, rfl⟩ := List.append_of_mem (same.subset List.mem_cons_self)
    have rest : ts.Perm (before ++ after) := (same.trans List.perm_middle).cons_inv
    -- What stands before the turn here came after it there.
    have passes : ∀ u ∈ before, ∀ s, a.Commutes s u.write t.write := by
      intro u early
      have later : u ∈ ts := rest.symm.subset (List.mem_append_left after early)
      refine commute (reordered t u ?_ ?_).symm
      · exact (List.singleton_sublist.mpr later).cons_cons t
      · exact (List.singleton_sublist.mpr early).append (List.singleton_sublist.mpr List.mem_cons_self)
    have reordered_rest : Turn.Reordered ts (before ++ after) := by
      intro u v there here
      refine reordered u v (there.cons t) (here.trans ?_)
      exact (List.Sublist.refl before).append (List.sublist_cons_self t after)
    exact ((ih once rest reordered_rest).cons t).trans (Indistinct.toFront passes).symm

end Adapter

/-! ## Fields that stay -/

namespace Write

/-- A write decides about a field of a document: it puts or drops the document, or gives the field a
value. -/
def Decides (collection id name : String) : Write → Prop
  | .put c i _ => c = collection ∧ i = id
  | .merge c i changes => (c = collection ∧ i = id) ∧ changes.contains name = true
  | .drop c i => c = collection ∧ i = id

/-- A field keeps its value, or stays without one, where no write decides about it. -/
theorem field_effect {w : Write} {collection id name : String} {found? : Option Document}
    (undecided : ¬ w.Decides collection id name) :
    (effect collection id found? w).bind (·.get? name) = found?.bind (·.get? name) := by
  cases w with
  | put c i d =>
    have elsewhere : ¬ (c = collection ∧ i = id) := undecided
    rw [effect, if_neg elsewhere]
  | merge c i changes =>
    rw [effect]
    split
    · next here =>
      have absent : changes.get? name = none := by
        simpa [Table.contains] using fun given => undecided ⟨here, given⟩
      cases found? with
      | none => rfl
      | some d =>
        show (d.overlay changes).get? name = d.get? name
        rw [Table.get?_overlay, absent, Option.none_or]
    · rfl
  | drop c i =>
    have elsewhere : ¬ (c = collection ∧ i = id) := undecided
    rw [effect, if_neg elsewhere]

end Write

/-- The value of a field of the document at a place. -/
def Store.field? (s : Store) (collection id name : String) : Option Value :=
  (s.find? collection id).bind (·.get? name)

namespace Memory

variable {newId : Nat → String} {collection id name : String}

theorem field?_answer_call (w : Write) (m : Memory) :
    ((adapter newId).answer w.call m).2.store.field? collection id name =
      (Write.effect collection id (m.store.find? collection id) w).bind (·.get? name) := by
  rw [answer_call, Store.field?, Store.find?_answer_call]

/-- Turns that do not decide about a field leave it as it is. -/
theorem field?_run {ts : List Turn} (undecided : ∀ t ∈ ts, ¬ t.write.Decides collection id name)
    (m : Memory) : ((adapter newId).run (Turn.calls ts) m).store.field? collection id name =
      m.store.field? collection id name := by
  induction ts generalizing m with
  | nil => rfl
  | cons t ts ih =>
    obtain ⟨first, rest⟩ := List.forall_mem_cons.mp undecided
    exact (ih rest _).trans ((field?_answer_call t.write m).trans (Write.field_effect first))

/-- An update that succeeds has given its fields their values. -/
theorem field?_answer_update {changes : Document} {m : Memory}
    (succeeded : ((adapter newId).answer (.update collection id changes) m).1 = .ok ())
    {v : Value} (given : changes.get? name = some v) :
    ((adapter newId).answer (.update collection id changes) m).2.store.field? collection id name =
      some v := by
  refine (field?_answer_call (.merge collection id changes) m).trans ?_
  rw [Write.effect_merge_here]
  cases found : m.store.find? collection id with
  | none =>
    have failed : (Store.answer (newId m.made) (.update collection id changes) m.store).1 =
        .error (Store.missing collection id) :=
      congrArg Prod.fst (Store.answer_update_missing found)
    cases failed.symm.trans succeeded
  | some d =>
    show (d.overlay changes).get? name = some v
    rw [Table.get?_overlay, given, Option.some_or]

/-- Independent writes commute. Interleavings of the clients' writes that differ in the order of
independent writes alone lead to the same store, with every turn answered the same. And no update is
lost in any order of turns: a field that it gave a value has this value in the end, unless a later write
decides about it. -/
theorem independent_writes_commute (newId : Nat → String) (m : Memory) :
    (∀ w u : Write, w.Independent u → (adapter newId).Commutes m w u) ∧
      (∀ clients ts us, Turn.Interleaves clients ts → Turn.Interleaves clients us →
        Turn.Reordered ts us →
        (adapter newId).run (Turn.calls ts) m = (adapter newId).run (Turn.calls us) m ∧
          ((adapter newId).answers ts m).Perm ((adapter newId).answers us m)) ∧
      ∀ (before : List Turn) (t : Turn) (after : List Turn) (collection id : String)
        (changes : Document), t.write = .merge collection id changes →
        ((adapter newId).answer (.update collection id changes)
          ((adapter newId).run (Turn.calls before) m)).1 = .ok () →
        ∀ name v, changes.get? name = some v →
          (∀ u ∈ after, ¬ u.write.Decides collection id name) →
          ((adapter newId).run (Turn.calls (before ++ t :: after)) m).store.field? collection id name =
            some v := by
  refine ⟨fun w u independent => commutes_of_independent newId m independent, ?_, ?_⟩
  · intro clients ts us hts hus reordered
    have commute {w u : Write} (h : w.Independent u) (s : Memory) : (adapter newId).Commutes s w u :=
      commutes_of_independent newId s h
    exact Adapter.indistinct_of_reordered commute hts.nodup (hts.perm hus) reordered m
  · rintro before ⟨client, number, _⟩ after collection id changes rfl succeeded name v given undecided
    have split_run : (adapter newId).run
        (Turn.calls (before ++ ⟨client, number, .merge collection id changes⟩ :: after)) m =
          (adapter newId).run (Turn.calls after) ((adapter newId).answer (.update collection id changes)
            ((adapter newId).run (Turn.calls before) m)).2 := by
      rw [Adapter.run, Turn.calls, List.map_append, List.foldl_append]
      rfl
    rw [split_run, field?_run undecided, field?_answer_update succeeded given]

/-- One post that nobody has viewed. -/
def unviewed : Memory := ofSeed [("posts", "a", .ofList [("views", .number (.ofInt 0))])]

def titled (title : String) : Write :=
  .merge "posts" "a" (.ofList [("title", .string title)])

def viewed : Write := .merge "posts" "a" (.ofList [("views", .number (.ofInt 1))])

/-- The first client gives the post a title and then another one; the second counts a view of it, and
drops a post that is not there. -/
def writers : Nat → List Write
  | 0 => [titled "hi", titled "hello"]
  | 1 => [viewed, .drop "drafts" "a"]
  | _ => []

def titlesFirst : List Turn :=
  [⟨0, 0, titled "hi"⟩, ⟨0, 1, titled "hello"⟩, ⟨1, 0, viewed⟩, ⟨1, 1, .drop "drafts" "a"⟩]

def titlesBetween : List Turn :=
  [⟨1, 0, viewed⟩, ⟨0, 0, titled "hi"⟩, ⟨1, 1, .drop "drafts" "a"⟩, ⟨0, 1, titled "hello"⟩]

theorem independent_writes_commute_titles :
    (adapter fun _ => "new").Commutes unviewed (titled "hi") viewed ∧
      ((adapter fun _ => "new").run (Turn.calls titlesFirst) unviewed =
          (adapter fun _ => "new").run (Turn.calls titlesBetween) unviewed ∧
        ((adapter fun _ => "new").answers titlesFirst unviewed).Perm
          ((adapter fun _ => "new").answers titlesBetween unviewed)) ∧
      ((adapter fun _ => "new").run (Turn.calls titlesBetween) unviewed).store.field? "posts" "a"
        "views" = some (.number (.ofInt 1)) := by
  have apart (title : String) : (titled title).Independent viewed := by
    refine .together fun n there => ?_
    obtain rfl := Table.contains_ofList_singleton.mp there
    rfl
  have elsewhere {w : Write} (here : w.place = ("posts", "a")) :
      w.Independent (.drop "drafts" "a") := by
    refine .apart ?_
    rw [here]
    decide
  have reordered : Turn.Reordered titlesFirst titlesBetween := by
    have kept : ¬ [⟨0, 1, titled "hello"⟩, ⟨0, 0, titled "hi"⟩].Sublist titlesBetween :=
      fun h => absurd (h.map fun t => (t.client, t.number)) (by decide)
    have pairs : titlesFirst.Pairwise fun t u =>
        [u, t].Sublist titlesBetween → t.write.Independent u.write := by
      have dropped (title : String) : (titled title).Independent (.drop "drafts" "a") :=
        elsewhere rfl
      have counted : viewed.Independent (.drop "drafts" "a") := elsewhere rfl
      simp [titlesFirst, kept, apart, dropped, counted]
    exact fun t u there => List.pairwise_iff_forall_sublist.mp pairs there
  have first : Turn.Interleaves writers titlesFirst
    | 0 | 1 | _ + 2 => rfl
  have second : Turn.Interleaves writers titlesBetween
    | 0 | 1 | _ + 2 => rfl
  obtain ⟨pair, runs, lasting⟩ := independent_writes_commute (fun _ => "new") unviewed
  refine ⟨pair _ _ (apart "hi"), runs writers _ _ first second reordered, ?_⟩
  refine lasting [] ⟨1, 0, viewed⟩ _ "posts" "a" _ rfl rfl "views" _ rfl ?_
  simp [Write.Decides, titled, Table.contains_ofList_singleton]

end Memory

end Docstore
