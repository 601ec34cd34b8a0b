import Docstore.Proofs.Query.Meaning
import Docstore.Proofs.Store.History
import Docstore.Proofs.Value.SortOrder

/-!
# Listings

What a collection has to show for constraints is fixed by what it holds: the documents that meet
every constraint, in the order of the sort keys and, where these tie, of the identifiers.
`Store.Listing` says this without filtering or sorting anything; there is at most one list like that
(`Store.Listing.unique`), and a listing that is answered is it (`Store.listing_determined`).

The order has two sources. Filtering leaves the documents in the order of their identifiers, and a
stable sort by the keys leaves ties as they were (`pairwise_mergeSort_then`).
-/

namespace Docstore

/-! ## Stable sorting -/

/-- Sorting by an order in which elements may tie leaves those that tie as they were. -/
theorem pairwise_mergeSort_then {α : Type} {cmp : α → α → Ordering} [Std.TransCmp cmp]
    {R : α → α → Prop} {l : List α} (h : l.Pairwise R) :
    (l.mergeSort fun a b => (cmp a b).isLE).Pairwise
      fun a b => cmp a b = .lt ∨ cmp a b = .eq ∧ R a b := by
  have trans (a b c : α) (hab : (cmp a b).isLE) (hbc : (cmp b c).isLE) : (cmp a c).isLE :=
    Std.TransCmp.isLE_trans hab hbc
  have total (a b : α) : (cmp a b).isLE || (cmp b a).isLE := isLE_total a b
  induction l with
  | nil => simp
  | cons a l ih =>
    obtain ⟨head, tail⟩ := List.pairwise_cons.mp h
    obtain ⟨before, after, sorted, others, later⟩ := List.mergeSort_cons trans total a l
    have in_order := List.pairwise_mergeSort trans total (a :: l)
    have mem_l : ∀ b ∈ after, b ∈ l := fun b hb =>
      List.mem_mergeSort.mp (others ▸ List.mem_append_right before hb)
    have ih := ih tail
    rw [others] at ih
    rw [sorted] at in_order ⊢
    obtain ⟨befores, afters, across⟩ := List.pairwise_append.mp ih
    refine List.pairwise_append.mpr ⟨befores, List.pairwise_cons.mpr ⟨fun b hb => ?_, afters⟩, ?_⟩
    · have le := (List.pairwise_cons.mp (List.pairwise_append.mp in_order).2.1).1 b hb
      exact (Ordering.isLE_iff_eq_lt_or_eq_eq.mp le).imp_right fun tie => ⟨tie, head b (mem_l b hb)⟩
    · intro b hb c hc
      rcases List.mem_cons.mp hc with rfl | hc
      · have not_le : ¬ (cmp c b).isLE := by simpa using later b hb
        exact .inl (Std.OrientedCmp.lt_of_not_isLE not_le)
      · exact across b hb c hc

/-! ## The order of a listing -/

namespace StoredDocument

/-- One document comes before another: by the first sort key on which they differ, else by their
identifiers. -/
def Before : List (String × Direction) → StoredDocument → StoredDocument → Prop
  | [], a, b => a.id < b.id
  | (field, direction) :: keys, a, b =>
    let order := direction.apply ((a.fields.sortValue field).totalCompare (b.fields.sortValue field))
    order = .lt ∨ order = .eq ∧ Before keys a b

theorem before_iff {keys : List (String × Direction)} {a b : StoredDocument} :
    Before keys a b ↔ Document.compareBy keys a.fields b.fields = .lt ∨
      Document.compareBy keys a.fields b.fields = .eq ∧ a.id < b.id := by
  induction keys with
  | nil => simp [Before, Document.compareBy]
  | cons key keys ih =>
    rw [Before, Document.compareBy, Ordering.then_eq_lt, Ordering.then_eq_eq, ih]
    constructor
    · rintro (first | ⟨tie, rest | ⟨ties, ids⟩⟩)
      · exact .inl (.inl first)
      · exact .inl (.inr ⟨tie, rest⟩)
      · exact .inr ⟨⟨tie, ties⟩, ids⟩
    · rintro ((first | ⟨tie, rest⟩) | ⟨⟨tie, ties⟩, ids⟩)
      · exact .inl first
      · exact .inr ⟨tie, .inl rest⟩
      · exact .inr ⟨tie, .inr ⟨ties, ids⟩⟩

instance (keys : List (String × Direction)) (a b : StoredDocument) : Decidable (Before keys a b) :=
  decidable_of_iff _ before_iff.symm

theorem before_asymm {keys : List (String × Direction)} {a b : StoredDocument}
    (h : Before keys a b) : ¬ Before keys b a := by
  have := Document.transCmp_compareBy keys
  intro h'
  rcases before_iff.mp h with lt | ⟨tie, ids⟩
  · rcases before_iff.mp h' with lt' | ⟨tie', -⟩
    · exact Std.OrientedCmp.not_lt_of_lt lt lt'
    · rw [Std.OrientedCmp.eq_comm.mp tie'] at lt
      cases lt
  · rcases before_iff.mp h' with lt' | ⟨-, ids'⟩
    · rw [Std.OrientedCmp.eq_comm.mp tie] at lt'
      cases lt'
    · exact String.lt_asymm ids ids'

/-- Sorting puts documents that come in the order of their identifiers into the order of a listing. -/
theorem pairwise_sortBy (keys : List (String × Direction)) {ds : List StoredDocument}
    (ids : ds.Pairwise fun a b => a.id < b.id) : (sortBy keys ds).Pairwise (Before keys) := by
  have order := transCmp_fields keys
  exact (pairwise_mergeSort_then ids).imp before_iff.mpr

/-- Lists in the order of a listing are known by what they hold. -/
theorem eq_of_pairwise_before {keys : List (String × Direction)} {r s : List StoredDocument}
    (hr : r.Pairwise (Before keys)) (hs : s.Pairwise (Before keys)) (same : ∀ x, x ∈ r ↔ x ∈ s) :
    r = s := by
  have nodup {l : List StoredDocument} (h : l.Pairwise (Before keys)) : l.Nodup :=
    h.imp fun {a b} before (same : a = b) => before_asymm before (same ▸ before)
  refine List.Perm.eq_of_pairwise (fun a b _ _ hab hba => absurd hba (before_asymm hab)) hr hs ?_
  exact (List.perm_ext_iff_of_nodup (nodup hr) (nodup hs)).mpr same

/-- Found documents that are in the order of a listing are what is selected. -/
theorem select_eq_ok {cs : List Constraint} {ds found r : List StoredDocument}
    (filtered : filter cs ds = .ok found) (ids : found.Pairwise fun a b => a.id < b.id)
    (sorted : r.Pairwise (Before (Constraint.sortKeys cs))) (same : ∀ x, x ∈ found ↔ x ∈ r) :
    select cs ds = .ok r := by
  have by_keys : sortBy (Constraint.sortKeys cs) found = r := by
    refine eq_of_pairwise_before (pairwise_sortBy _ ids) sorted fun x => ?_
    rw [sortBy, List.mem_mergeSort, same]
  rw [select, filtered, ok_bind, by_keys]
  rfl

end StoredDocument

/-! ## What is listed -/

namespace Store

/-- What a collection has to show for constraints: what meets them, in the order of a listing. -/
structure Listing (s : Store) (collection : String) (cs : List Constraint)
    (r : List StoredDocument) : Prop where
  mem_iff : ∀ x, x ∈ r ↔
    s.find? collection x.id = some x.fields ∧ ∀ c ∈ cs, c.Met x.fields
  increasing : r.Pairwise (StoredDocument.Before (Constraint.sortKeys cs))

variable {s : Store} {collection fresh : String} {cs : List Constraint} {r r' : List StoredDocument}

theorem Listing.unique (h : s.Listing collection cs r) (h' : s.Listing collection cs r') : r' = r :=
  StoredDocument.eq_of_pairwise_before h'.increasing h.increasing fun x =>
    (h'.mem_iff x).trans (h.mem_iff x).symm

/-- No identifier is listed twice. -/
theorem Listing.nodup_ids (h : s.Listing collection cs r) : (r.map StoredDocument.id).Nodup := by
  refine List.pairwise_map.mpr (h.increasing.imp_of_mem fun {x y} hx hy before same => ?_)
  have fields : x.fields = y.fields := by
    have found := ((h.mem_iff x).mp hx).1
    rw [same, ((h.mem_iff y).mp hy).1] at found
    exact (Option.some.inj found).symm
  have equal : x = y := by
    cases x
    cases y
    cases same
    cases fields
    rfl
  exact StoredDocument.before_asymm before (equal ▸ before)

theorem listing_of_select (h : StoredDocument.select cs (s.stored collection) = .ok r) :
    s.Listing collection cs r := by
  obtain ⟨found, filtered, sorted⟩ := bind_eq_ok_iff.mp h
  obtain ⟨sub, mem_found⟩ := StoredDocument.filter_eq_ok filtered
  cases sorted
  have ids : (s.stored collection).Pairwise fun a b => a.id < b.id := by
    rw [← List.pairwise_map, ids_stored]
    exact (s.documents collection).sorted
  exact
    { mem_iff := fun x => by
        rw [StoredDocument.sortBy, List.mem_mergeSort, mem_found, mem_stored_iff]
      increasing := StoredDocument.pairwise_sortBy _ (ids.sublist sub) }

/-- A listing that is answered has what the collection has to show and nothing else, each document
once, and in the only order there is. -/
theorem listing_determined (h : (answer fresh (.list collection cs) s).1 = .ok r) :
    s.Listing collection cs r ∧ (r.map StoredDocument.id).Nodup ∧
      ∀ r', s.Listing collection cs r' → r' = r := by
  have listing := listing_of_select h
  exact ⟨listing, listing.nodup_ids, fun r' h' => listing.unique h'⟩

/-- A post with a status and a number of views. -/
def post (status : String) (views : Nat) : Document :=
  .ofList [("status", .string status), ("views", .number (.ofInt views))]

/-- Posts of which two tie, one is a draft, and one has no status. -/
def posts : Store :=
  (Memory.ofSeed [("posts", "p2", post "live" 5), ("posts", "p1", post "live" 5),
    ("posts", "p3", post "live" 9), ("posts", "p4", post "old" 9), ("posts", "p5", post "draft" 1),
    ("posts", "p6", .ofList [("views", .number (.ofInt 7))]), ("tags", "t1", post "live" 7)]).store

/-- Posts that are no drafts, those with the most views first, then by status. -/
def mostViewed : List Constraint :=
  [.compare "status" .notEqual (.string "draft"), .orderBy "views" .descending,
    .orderBy "status" .ascending]

def mostViewedPosts : List StoredDocument :=
  [⟨"p3", post "live" 9⟩, ⟨"p4", post "old" 9⟩, ⟨"p1", post "live" 5⟩, ⟨"p2", post "live" 5⟩]

theorem listing_determined_mostViewed :
    (answer "" (.list "posts" mostViewed) posts).1 = .ok mostViewedPosts ∧
      posts.Listing "posts" mostViewed mostViewedPosts ∧
      (mostViewedPosts.map StoredDocument.id).Nodup ∧
      ∀ r', posts.Listing "posts" mostViewed r' → r' = mostViewedPosts := by
  let found : List StoredDocument :=
    [⟨"p1", post "live" 5⟩, ⟨"p2", post "live" 5⟩, ⟨"p3", post "live" 9⟩, ⟨"p4", post "old" 9⟩]
  have filtered : StoredDocument.filter mostViewed (posts.stored "posts") = .ok found := rfl
  have ids : found.Pairwise fun a b => a.id < b.id := by decide +kernel
  have keys : mostViewedPosts.Pairwise (StoredDocument.Before (Constraint.sortKeys mostViewed)) := by
    decide +kernel
  have sorted : StoredDocument.sortBy (Constraint.sortKeys mostViewed) found = mostViewedPosts := by
    refine StoredDocument.eq_of_pairwise_before (StoredDocument.pairwise_sortBy _ ids) keys fun x => ?_
    rw [StoredDocument.sortBy, List.mem_mergeSort]
    simp only [found, mostViewedPosts, List.mem_cons]
    grind
  have answered : (answer "" (.list "posts" mostViewed) posts).1 = .ok mostViewedPosts := by
    rw [answer, StoredDocument.select, filtered, ok_bind, sorted]
    rfl
  exact ⟨answered, listing_determined answered⟩

end Store

end Docstore
