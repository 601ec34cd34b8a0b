import Docstore.Proofs.Query.Malformed
import Docstore.Proofs.Store.Listing

/-!
# Ranges in a sorted listing

A range operator and a sort look at a field with two orders. The first compares numeric values, and it
has no place for a NaN or for a value of another kind than the operand; the second has a place for all of
them. Still no sort tears a range apart: in a listing that is sorted by the field first, the documents in
a range stand together, and they are what is listed for the range (`Store.range_is_block`).

That is so because a value between two others that are in a range is in it too
(`Value.admits_of_between`). Values of other kinds and NaNs are outside all values that are compared,
and what one order has at the same place the other has side by side.
-/

namespace Docstore

/-! ## Blocks -/

section Blocks

variable {α : Type} {R : α → α → Prop} {p : α → Bool} {l : List α}

/-- After an element with a property come the others that have it, and then those without. -/
theorem exists_filter_append {a : α} (between : ∀ b c, R a b → R b c → p c = true → p b = true)
    (first : ∀ b ∈ l, R a b) (sorted : l.Pairwise R) :
    ∃ after, l = l.filter p ++ after ∧ ∀ b ∈ after, p b = false := by
  induction l with
  | nil => exact ⟨[], rfl, List.forall_mem_nil _⟩
  | cons b l ih =>
    obtain ⟨hab, first⟩ := List.forall_mem_cons.mp first
    obtain ⟨head, sorted⟩ := List.pairwise_cons.mp sorted
    cases hb : p b with
    | true =>
      obtain ⟨after, split_at, without⟩ := ih first sorted
      refine ⟨after, ?_, without⟩
      rw [List.filter_cons_of_pos hb, List.cons_append, ← split_at]
    | false =>
      have later : ∀ c ∈ l, p c = false := by
        intro c hc
        cases hc' : p c with
        | false => rfl
        | true => exact (between b c hab (head c hc) hc').symm.trans hb
      have without : ∀ c ∈ b :: l, p c = false := List.forall_mem_cons.mpr ⟨hb, later⟩
      have none_has : (b :: l).filter p = [] :=
        List.filter_eq_nil_iff.mpr fun c hc => Bool.eq_false_iff.mp (without c hc)
      refine ⟨b :: l, ?_, without⟩
      rw [none_has, List.nil_append]

/-- In a sorted list, the elements with a property that all between two such have stand together. -/
theorem exists_block (between : ∀ a b c, R a b → R b c → p a = true → p c = true → p b = true)
    (sorted : l.Pairwise R) :
    ∃ before after, l = before ++ l.filter p ++ after ∧ ∀ a ∈ before ++ after, p a = false := by
  induction l with
  | nil => exact ⟨[], [], rfl, List.forall_mem_nil _⟩
  | cons a l ih =>
    obtain ⟨head, sorted⟩ := List.pairwise_cons.mp sorted
    cases ha : p a with
    | true =>
      obtain ⟨after, split_at, without⟩ :=
        exists_filter_append (fun b c hab hbc => between a b c hab hbc ha) head sorted
      refine ⟨[], after, ?_, without⟩
      rw [List.filter_cons_of_pos ha, List.nil_append, List.cons_append, ← split_at]
    | false =>
      obtain ⟨before, after, split_at, without⟩ := ih sorted
      refine ⟨a :: before, after, ?_, List.forall_mem_cons.mpr ⟨ha, without⟩⟩
      rw [List.filter_cons_of_neg (by simp [ha]), List.cons_append, List.cons_append, ← split_at]

end Blocks

/-! ## Between values of a range -/

namespace Operator

/-- The operators that ask for a place in an order. -/
def isRange : Operator → Bool
  | .greater | .greaterOrEqual | .less | .lessOrEqual => true
  | _ => false

theorem needsArray_of_isRange {op : Operator} (range : op.isRange = true) :
    op.needsArray = false := by
  cases op <;> first | rfl | cases range

/-- What a range operator asks of two elements it asks of all between them. -/
theorem admits_of_between {α : Type} (cmp : α → α → Ordering) [Std.TransCmp cmp] {op : Operator}
    {a b c z : α} (hab : (cmp a b).isLE = true) (hbc : (cmp b c).isLE = true)
    (ha : op.admits (cmp a z) = true) (hc : op.admits (cmp c z) = true) :
    op.admits (cmp b z) = true := by
  have above (h : cmp a z = .gt) : cmp b z = .gt :=
    Std.OrientedCmp.gt_of_lt (Std.TransCmp.lt_of_lt_of_isLE (Std.OrientedCmp.lt_of_gt h) hab)
  have not_below (h : cmp a z ≠ .lt) : cmp b z ≠ .lt := fun lt =>
    h (Std.TransCmp.lt_of_isLE_of_lt hab lt)
  have below (h : cmp c z = .lt) : cmp b z = .lt := Std.TransCmp.lt_of_isLE_of_lt hbc h
  have not_above (h : cmp c z ≠ .gt) : cmp b z ≠ .gt := fun gt =>
    h (Std.OrientedCmp.gt_of_lt (Std.TransCmp.lt_of_lt_of_isLE (Std.OrientedCmp.lt_of_gt gt) hbc))
  cases op with
  | greater => exact beq_iff_eq.mpr (above (beq_iff_eq.mp ha))
  | greaterOrEqual => exact bne_iff_ne.mpr (not_below (bne_iff_ne.mp ha))
  | less => exact beq_iff_eq.mpr (below (beq_iff_eq.mp hc))
  | lessOrEqual => exact bne_iff_ne.mpr (not_above (bne_iff_ne.mp hc))
  | _ => cases ha

theorem relates_iff_of_isRange {op : Operator} {v operand : Value} (range : op.isRange = true) :
    op.Relates v operand ↔ (v.compare? operand).any op.admits = true := by
  rw [← holds?_eq_some_true_iff]
  cases op with
  | greater | greaterOrEqual | less | lessOrEqual => exact Option.some_inj
  | _ => cases range

end Operator

namespace Binary64

variable {x y z : Binary64}

/-- The order of bit patterns never goes against the order of values. -/
theorem rank_le_of_position_le (h : x.position ≤ y.position) : x.rank ≤ y.rank := by
  unfold position at h
  unfold rank
  cases hx : x.isNegative <;> cases hy : y.isNegative <;> simp [hx, hy] at h ⊢ <;> omega

/-- The NaNs are at the two ends of the order of bit patterns. -/
theorem isNaN_of_between (hxy : x.position ≤ y.position) (hyz : y.position ≤ z.position)
    (hx : x.isNaN = false) (hz : z.isNaN = false) : y.isNaN = false := by
  have x_le := of_decide_eq_false hx
  have z_le := of_decide_eq_false hz
  refine decide_eq_false ?_
  unfold position at hxy hyz
  cases sx : x.isNegative <;> cases sy : y.isNegative <;> cases sz : z.isNegative <;>
    simp [sx, sy, sz] at hxy hyz <;> omega

/-- What is between two numbers that stand to an operand as a range operator asks does so too. -/
theorem admits_of_between {op : Operator} {operand : Binary64}
    (hxy : (x.totalCompare y).isLE = true) (hyz : (y.totalCompare z).isLE = true)
    (hx : (x.compare? operand).any op.admits = true)
    (hz : (z.compare? operand).any op.admits = true) :
    (y.compare? operand).any op.admits = true := by
  have hxy := Int.isLE_compare.mp hxy
  have hyz := Int.isLE_compare.mp hyz
  unfold compare? at hx hz ⊢
  cases nan : operand.isNaN with
  | true => simp [nan] at hx
  | false =>
    cases nx : x.isNaN with
    | true => simp [nx] at hx
    | false =>
      cases nz : z.isNaN with
      | true => simp [nz] at hz
      | false =>
        simp only [nan, nx, nz, isNaN_of_between hxy hyz nx nz] at hx hz ⊢
        exact Operator.admits_of_between compare
          (Int.isLE_compare.mpr (rank_le_of_position_le hxy))
          (Int.isLE_compare.mpr (rank_le_of_position_le hyz)) hx hz

end Binary64

namespace Value

theorem kind_eq_of_compare? {v operand : Value} {o : Ordering} (h : v.compare? operand = some o) :
    v.kind = operand.kind := by
  cases v <;> cases operand <;> first | rfl | cases h

theorem rank_le_of_isLE {v w : Value} (h : (v.totalCompare w).isLE = true) :
    v.kind.rank ≤ w.kind.rank := by
  rcases Ordering.isLE_iff_eq_lt_or_eq_eq.mp h with lt | eq
  · exact rank_le_of_lt lt
  · exact Nat.le_of_eq (congrArg Kind.rank (kind_eq_of_totalCompare eq))

/-- A value between two that are in a range is in it too. -/
theorem admits_of_between {op : Operator} {u v w operand : Value}
    (huv : (u.totalCompare v).isLE = true) (hvw : (v.totalCompare w).isLE = true)
    (hu : (u.compare? operand).any op.admits = true)
    (hw : (w.compare? operand).any op.admits = true) :
    (v.compare? operand).any op.admits = true := by
  obtain ⟨_, compared, -⟩ := (Option.any_eq_true _ _).mp hu
  have ku := kind_eq_of_compare? compared
  obtain ⟨_, compared, -⟩ := (Option.any_eq_true _ _).mp hw
  have kw := kind_eq_of_compare? compared
  have kv : v.kind = operand.kind := by
    have ruv := rank_le_of_isLE huv
    have rvw := rank_le_of_isLE hvw
    rw [ku] at ruv
    rw [kw] at rvw
    exact Kind.rank_injective (Nat.le_antisymm rvw ruv)
  cases operand with
  | null => cases u <;> cases hu
  | array _ => cases u <;> cases hu
  | number z =>
    cases u <;> cases ku
    cases v <;> cases kv
    cases w <;> cases kw
    exact Binary64.admits_of_between huv hvw hu hw
  | boolean _ | date _ | string _ =>
    cases u <;> cases ku
    cases v <;> cases kv
    cases w <;> cases kw
    exact Operator.admits_of_between compare huv hvw hu hw

end Value

/-! ## Listings -/

namespace Constraint

/-- Constraints that only sort. -/
def sorting (keys : List (String × Direction)) : List Constraint :=
  keys.map fun key => .orderBy key.1 key.2

theorem sortKeys_sorting (keys : List (String × Direction)) : sortKeys (sorting keys) = keys := by
  induction keys with
  | nil => rfl
  | cons key keys ih => exact congrArg (key :: ·) ih

theorem not_malformed_sorting {keys : List (String × Direction)} :
    ∀ c ∈ sorting keys, ¬ c.Malformed := by
  intro c hc
  obtain ⟨key, -, rfl⟩ := List.mem_map.mp hc
  exact id

end Constraint

namespace StoredDocument

variable {field : String} {direction : Direction} {keys : List (String × Direction)}

/-- A document is in a range: it has the field, with a value that stands to the operand as asked. -/
def inRange (field : String) (op : Operator) (operand : Value) (x : StoredDocument) : Bool :=
  (x.fields.get? field).any fun v => (v.compare? operand).any op.admits

theorem inRange_iff {op : Operator} {operand : Value} {x : StoredDocument}
    (range : op.isRange = true) :
    x.inRange field op operand = true ↔ (Constraint.compare field op operand).Met x.fields := by
  rw [inRange, Option.any_eq_true, Constraint.Met]
  exact exists_congr fun v => and_congr_right fun _ => (Operator.relates_iff_of_isRange range).symm

/-- Before another comes what has no greater value at the first sort key, seen in its direction. -/
theorem apply_isLE_of_before {x y : StoredDocument} (h : Before ((field, direction) :: keys) x y) :
    (direction.apply ((x.fields.sortValue field).totalCompare (y.fields.sortValue field))).isLE =
      true := by
  rcases h with lt | ⟨eq, -⟩
  · rw [lt]
    rfl
  · rw [eq]
    rfl

/-- Where a field is sorted by first, a document between two in a range is in it too. -/
theorem inRange_of_between {op : Operator} {operand : Value} {x y z : StoredDocument}
    (there : (y.fields.get? field).isSome = true)
    (hxy : Before ((field, direction) :: keys) x y) (hyz : Before ((field, direction) :: keys) y z)
    (hx : x.inRange field op operand = true) (hz : z.inRange field op operand = true) :
    y.inRange field op operand = true := by
  obtain ⟨u, hu, u_in⟩ := (Option.any_eq_true _ _).mp hx
  obtain ⟨v, hv⟩ := Option.isSome_iff_exists.mp there
  obtain ⟨w, hw, w_in⟩ := (Option.any_eq_true _ _).mp hz
  have huv := apply_isLE_of_before hxy
  have hvw := apply_isLE_of_before hyz
  simp only [Document.sortValue, hu, hv, hw, Option.getD_some] at huv hvw
  rw [inRange, hv, Option.any_some]
  cases direction with
  | ascending => exact Value.admits_of_between huv hvw u_in w_in
  | descending =>
    rw [Direction.apply, ← Value.totalCompare_swap] at huv hvw
    exact Value.admits_of_between hvw huv w_in u_in

end StoredDocument

namespace Store

variable {s : Store} {collection field : String} {cs : List Constraint} {op : Operator}
  {operand : Value} {direction : Direction} {keys : List (String × Direction)}
  {r : List StoredDocument}

/-- What is listed for a range is what is in it of what is listed without it. -/
theorem Listing.inRange (range : op.isRange = true)
    (h : s.Listing collection (cs ++ Constraint.sorting keys) r) :
    s.Listing collection (cs ++ .compare field op operand :: Constraint.sorting keys)
      (r.filter (·.inRange field op operand)) where
  mem_iff x := by
    rw [List.mem_filter, h.mem_iff, StoredDocument.inRange_iff range]
    simp only [List.forall_mem_append, List.forall_mem_cons]
    grind
  increasing := by
    have keys_eq :
        Constraint.sortKeys (cs ++ .compare field op operand :: Constraint.sorting keys) =
          Constraint.sortKeys (cs ++ Constraint.sorting keys) := by
      rw [Constraint.sortKeys_append, Constraint.sortKeys_append, Constraint.sortKeys]
    rw [keys_eq]
    exact h.increasing.filter _

/-- In a listing that is sorted by a field first, what is in a range of the field stands together. -/
theorem Listing.exists_block (unsorted : Constraint.sortKeys cs = [])
    (h : s.Listing collection (cs ++ Constraint.sorting ((field, direction) :: keys)) r) :
    ∃ before after, r = before ++ r.filter (·.inRange field op operand) ++ after ∧
      ∀ x ∈ before ++ after, x.inRange field op operand = false := by
  have keys_eq : Constraint.sortKeys (cs ++ Constraint.sorting ((field, direction) :: keys)) =
      (field, direction) :: keys := by
    rw [Constraint.sortKeys_append, unsorted, Constraint.sortKeys_sorting, List.nil_append]
  have there : ∀ x ∈ r, (x.fields.get? field).isSome = true := fun x hx =>
    Option.isSome_iff_exists.mpr (((h.mem_iff x).mp hx).2 (.orderBy field direction)
      (List.mem_append_right cs List.mem_cons_self))
  have sorted : r.Pairwise fun x y => StoredDocument.Before ((field, direction) :: keys) x y ∧
      (y.fields.get? field).isSome = true :=
    h.increasing.imp_of_mem fun _ hy before => ⟨keys_eq ▸ before, there _ hy⟩
  exact Docstore.exists_block
    (fun x y z hxy hyz => StoredDocument.inRange_of_between hxy.2 hxy.1 hyz.1) sorted

/-- Sorted by a field first, the documents that a range operator asks for stand together: they are a
block of what is listed without it, and all of what is listed with it. -/
theorem range_is_block (fine : ∀ c ∈ cs, ¬ c.Malformed) (unsorted : Constraint.sortKeys cs = [])
    (range : op.isRange = true) (s : Store) (collection fresh field : String) (operand : Value)
    (direction : Direction) (keys : List (String × Direction)) :
    let sorting := Constraint.sorting ((field, direction) :: keys)
    let inRange := Constraint.compare field op operand
    ∃ before block after,
      (answer fresh (.list collection (cs ++ sorting)) s).1 = .ok (before ++ block ++ after) ∧
      (answer fresh (.list collection (cs ++ inRange :: sorting)) s).1 = .ok block ∧
      (∀ x ∈ block, inRange.Met x.fields) ∧
      ∀ x ∈ before ++ after, ¬ inRange.Met x.fields := by
  intro sorting inRange
  have fine_sorting : ∀ c ∈ sorting, ¬ c.Malformed := Constraint.not_malformed_sorting
  have fine_range : ¬ inRange.Malformed := fun malformed =>
    absurd malformed.1 (Bool.eq_false_iff.mp (Operator.needsArray_of_isRange range))
  obtain ⟨all, answered⟩ := StoredDocument.exists_select
    (List.forall_mem_append.mpr ⟨fine, fine_sorting⟩) (s.stored collection)
  obtain ⟨block, in_range⟩ := StoredDocument.exists_select
    (List.forall_mem_append.mpr ⟨fine, List.forall_mem_cons.mpr ⟨fine_range, fine_sorting⟩⟩)
    (s.stored collection)
  have listing := listing_of_select answered
  have block_eq : block = all.filter (·.inRange field op operand) :=
    (listing.inRange range).unique (listing_of_select in_range)
  obtain ⟨before, after, split_at, outside⟩ :=
    @Listing.exists_block _ _ _ _ op operand _ _ _ unsorted listing
  refine ⟨before, block, after, ?_, in_range, ?_, ?_⟩
  · rw [block_eq, ← split_at]
    exact answered
  · intro x hx
    rw [block_eq] at hx
    exact (StoredDocument.inRange_iff range).mp (List.mem_filter.mp hx).2
  · intro x hx
    rw [← StoredDocument.inRange_iff range, outside x hx]
    exact Bool.false_ne_true

/-- A game with a score and a tag. -/
def game (score : Value) (tag : String) : Document :=
  .ofList [("score", score), ("tag", .string tag)]

/-- Games with scores of several kinds, two NaNs and both zeros among them. -/
def games : Store :=
  (Memory.ofSeed [
    ("games", "g1", game (.number .nan) "a"),
    ("games", "g2", game (.number (.zero false)) "b"),
    ("games", "g3", game (.number (.infinity false)) "b"),
    ("games", "g4", game .null "a"),
    ("games", "g5", game (.string "7") "a"),
    ("games", "g6", game (.number (.zero true)) "a"),
    ("games", "g7", game (.number (.infinity true)) "c"),
    ("games", "g8", game (.number (.ofMagnitude true Binary64.nan.magnitude)) "a"),
    ("games", "g9", game (.number (.infinity false)) "a"),
    ("games", "x1", game (.number (.infinity false)) "x"),
    ("games", "x2", .ofList [("tag", .string "a")])]).store

/-- The games that are not tagged "x" and have no negative score, those with a high score first. -/
def unbeatenGames : List StoredDocument :=
  [⟨"g9", game (.number (.infinity false)) "a"⟩, ⟨"g3", game (.number (.infinity false)) "b"⟩,
    ⟨"g2", game (.number (.zero false)) "b"⟩, ⟨"g6", game (.number (.zero true)) "a"⟩]

theorem range_is_block_games :
    let tagged : List Constraint := [.compare "tag" .notEqual (.string "x")]
    let unbeaten := Constraint.compare "score" .greaterOrEqual (.number (.zero true))
    let sorting := Constraint.sorting [("score", .descending), ("tag", .ascending)]
    (∀ c ∈ tagged, ¬ c.Malformed) ∧ Constraint.sortKeys tagged = [] ∧
      ∃ before after,
        (answer "" (.list "games" (tagged ++ sorting)) games).1 =
          .ok (before ++ unbeatenGames ++ after) ∧
        (answer "" (.list "games" (tagged ++ unbeaten :: sorting)) games).1 = .ok unbeatenGames ∧
        ∀ x ∈ before ++ after, ¬ unbeaten.Met x.fields := by
  intro tagged unbeaten sorting
  have fine : ∀ c ∈ tagged, ¬ c.Malformed := by decide
  obtain ⟨before, block, after, all, in_range, -, outside⟩ := range_is_block fine rfl
    (rfl : Operator.greaterOrEqual.isRange = true) games "games" "" "score" (.number (.zero true))
    .descending [("tag", .ascending)]
  have found : StoredDocument.filter (tagged ++ unbeaten :: sorting) (games.stored "games") =
      .ok [⟨"g2", game (.number (.zero false)) "b"⟩, ⟨"g3", game (.number (.infinity false)) "b"⟩,
        ⟨"g6", game (.number (.zero true)) "a"⟩, ⟨"g9", game (.number (.infinity false)) "a"⟩] := rfl
  have selected := StoredDocument.select_eq_ok found (r := unbeatenGames) (by decide +kernel)
    (by decide +kernel) (by simp only [unbeatenGames, List.mem_cons]; grind)
  have block_eq : block = unbeatenGames := Except.ok.inj (in_range.symm.trans selected)
  rw [block_eq] at all in_range
  exact ⟨fine, rfl, before, after, all, in_range, outside⟩

end Store

end Docstore
