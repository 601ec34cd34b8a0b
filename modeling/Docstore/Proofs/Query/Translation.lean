import Docstore.Proofs.Query.Grammar
import Docstore.Proofs.Value.Equality

/-!
# Queries as constraints

A query in JSON becomes constraints in two passes over its entries. The first reads all of them, the
second finds the direction that each sort means; a number other than 1 and -1 means none. Each pass ends
at the first entry at which it fails, so an entry that cannot be read is reported even if a sort before
it has no direction.

`Query.Translates` says what comes out: a constraint for each entry, at its place, or the failure of one
entry. `QueryEntry.StandsFor` is what a constraint has to do with its entry, and `SortOrder.Directs` what
a direction has to do with the way in which it is given.
-/

namespace Docstore

/-! ## Directions -/

namespace SortOrder

/-- Which direction is meant: 1 is ascending and -1 is descending. -/
inductive Directs : SortOrder → Direction → Prop
  | named (direction : Direction) : Directs (.named direction) direction
  | one : Directs (.numeric (.ofInt 1)) .ascending
  | minusOne : Directs (.numeric (.ofInt (-1))) .descending

/-- A number that is neither 1 nor -1. -/
inductive Undirected : SortOrder → Binary64 → Prop
  | numeric {x : Binary64} (not_one : x ≠ .ofInt 1) (not_minus_one : x ≠ .ofInt (-1)) :
    Undirected (.numeric x) x

theorem direction_of_directs {order : SortOrder} {direction : Direction}
    (h : order.Directs direction) : order.direction = .ok direction := by
  cases h with
  | named direction => rfl
  | one => rw [direction, if_pos (by decide +kernel)]
  | minusOne => rw [direction, if_neg (by decide +kernel), if_pos (by decide +kernel)]

theorem direction_of_undirected {order : SortOrder} {x : Binary64} (h : order.Undirected x) :
    order.direction = .error (.query (.sortNumber x)) := by
  obtain ⟨not_one, not_minus_one⟩ := h
  have one := mt (Binary64.sameValue_iff_eq (by decide +kernel) (by decide +kernel)).mp not_one
  have minus_one :=
    mt (Binary64.sameValue_iff_eq (by decide +kernel) (by decide +kernel)).mp not_minus_one
  rw [direction, if_neg one, if_neg minus_one]

theorem directs_or_undirected (order : SortOrder) :
    (∃ direction, order.Directs direction) ∨ ∃ x, order.Undirected x := by
  cases order with
  | named direction => exact .inl ⟨direction, .named direction⟩
  | numeric x =>
    by_cases one : x = .ofInt 1
    · subst one
      exact .inl ⟨_, .one⟩
    · by_cases minus_one : x = .ofInt (-1)
      · subst minus_one
        exact .inl ⟨_, .minusOne⟩
      · exact .inr ⟨x, .numeric one minus_one⟩

end SortOrder

/-! ## Entries -/

namespace QueryEntry

/-- Which constraint an entry stands for: a filter for a comparison of its field with its operand, by the
operator of its condition, and a sort for a sort key on its field, in the direction that it means. -/
inductive StandsFor : QueryEntry → Constraint → Prop
  | filter (field : String) (condition : Operator) (operand : Value) :
    StandsFor (.filter field condition operand) (.compare field condition operand)
  | sort (field : String) {order : SortOrder} {direction : Direction}
    (directs : order.Directs direction) :
    StandsFor (.sort field order) (.orderBy field direction)

variable {e : QueryEntry} {c : Constraint} {failure : Failure}

theorem constraint_of_standsFor (h : e.StandsFor c) : e.constraint = .ok c := by
  cases h with
  | filter field condition operand => rfl
  | sort field directs =>
    rw [constraint, SortOrder.direction_of_directs directs]
    rfl

theorem constraint_of_undirected (field : String) {order : SortOrder} {x : Binary64}
    (h : order.Undirected x) : (sort field order).constraint = .error (.query (.sortNumber x)) := by
  rw [constraint, SortOrder.direction_of_undirected h]
  rfl

/-- An entry stands for a constraint, unless it sorts and has no direction. -/
theorem constraint_cases (e : QueryEntry) :
    (∃ c, e.StandsFor c) ∨ ∃ field order x, e = .sort field order ∧ order.Undirected x := by
  cases e with
  | filter field condition operand => exact .inl ⟨_, .filter field condition operand⟩
  | sort field order =>
    rcases order.directs_or_undirected with ⟨direction, directs⟩ | ⟨x, undirected⟩
    · exact .inl ⟨_, .sort field directs⟩
    · exact .inr ⟨field, order, x, rfl, undirected⟩

theorem constraint_eq_ok_iff : e.constraint = .ok c ↔ e.StandsFor c := by
  constructor
  · intro h
    rcases e.constraint_cases with ⟨c', stands⟩ | ⟨field, order, x, rfl, undirected⟩
    · cases (constraint_of_standsFor stands).symm.trans h
      exact stands
    · cases (constraint_of_undirected field undirected).symm.trans h
  · exact constraint_of_standsFor

theorem constraint_eq_error_iff : e.constraint = .error failure ↔
    ∃ field order x, e = .sort field order ∧ order.Undirected x ∧ failure = .query (.sortNumber x) := by
  constructor
  · intro h
    rcases e.constraint_cases with ⟨c, stands⟩ | ⟨field, order, x, rfl, undirected⟩
    · cases (constraint_of_standsFor stands).symm.trans h
    · cases (constraint_of_undirected field undirected).symm.trans h
      exact ⟨field, order, x, rfl, undirected, rfl⟩
  · rintro ⟨field, order, x, rfl, undirected, rfl⟩
    exact constraint_of_undirected field undirected

end QueryEntry

/-! ## Queries -/

namespace Query

theorem constraints_eq_mapM (query : Query) : query.constraints = query.mapM QueryEntry.constraint := by
  induction query with
  | nil => rfl
  | cons e es ih =>
    rw [constraints, List.mapM_cons, ih]

theorem ofJson_array (items : List Json) : ofJson (.array items) = items.mapM QueryEntry.ofJson := by
  rw [ofJson]
  induction items with
  | nil => rfl
  | cons j js ih =>
    rw [ofItems, List.mapM_cons, ih]

/-- The constraints of a query are one for each of its entries, in their order. -/
theorem constraints_eq_ok_iff {query : Query} {cs : List Constraint} :
    query.constraints = .ok cs ↔ List.Forall₂ QueryEntry.StandsFor query cs := by
  rw [constraints_eq_mapM, mapM_eq_ok_iff]
  simp only [QueryEntry.constraint_eq_ok_iff]

/-- The number that the first entry of a query gives that stands for no constraint: it is a sort, and the
number is no direction. -/
def FirstUndirected (query : Query) (x : Binary64) : Prop :=
  ∃ before field order after, query = before ++ .sort field order :: after ∧
    (∀ e ∈ before, ∃ c, e.StandsFor c) ∧ order.Undirected x

theorem constraints_eq_error_iff {query : Query} {failure : Failure} : query.constraints = .error failure ↔
    ∃ x, query.FirstUndirected x ∧ failure = .query (.sortNumber x) := by
  rw [constraints_eq_mapM, mapM_eq_error_iff]
  simp only [QueryEntry.constraint_eq_ok_iff, QueryEntry.constraint_eq_error_iff]
  constructor
  · rintro ⟨before, _, after, split_at, directed, field, order, x, rfl, undirected, rfl⟩
    exact ⟨x, ⟨before, field, order, after, split_at, directed, undirected⟩, rfl⟩
  · rintro ⟨x, ⟨before, field, order, after, split_at, directed, undirected⟩, rfl⟩
    exact ⟨before, _, after, split_at, directed, field, order, x, rfl, undirected, rfl⟩

theorem constraints_append (query others : Query) :
    constraints (query ++ others) = do return (← query.constraints) ++ (← others.constraints) := by
  rw [constraints_eq_mapM, constraints_eq_mapM, constraints_eq_mapM, List.mapM_append]

/-- What becomes of the entries of a query in JSON: constraints, one for each, at the same places; or
the failure of the first that cannot be read; or, if all can, that of the first without a direction. -/
inductive Translates : List Json → Except Failure (List Constraint) → Prop
  | translated {items : List Json} {query : Query} {cs : List Constraint}
    (read : List.Forall₂ QueryEntry.WrittenAs items query)
    (each : List.Forall₂ QueryEntry.StandsFor query cs) : Translates items (.ok cs)
  | unreadable {before after : List Json} {j : Json} {failure : Failure}
    (readable : ∀ b ∈ before, ∃ e, QueryEntry.WrittenAs b e)
    (refused : QueryEntry.ofJson j = .error failure) :
    Translates (before ++ j :: after) (.error failure)
  | undirected {items : List Json} {before after : Query} {field : String} {order : SortOrder}
    {x : Binary64} (read : List.Forall₂ QueryEntry.WrittenAs items (before ++ .sort field order :: after))
    (directed : ∀ e ∈ before, ∃ c, e.StandsFor c) (undirected : order.Undirected x) :
    Translates items (.error (.query (.sortNumber x)))

theorem mapM_ofJson_eq_ok_iff {items : List Json} {query : Query} :
    items.mapM QueryEntry.ofJson = .ok query ↔ List.Forall₂ QueryEntry.WrittenAs items query := by
  rw [mapM_eq_ok_iff]
  simp only [QueryEntry.ofJson_eq_ok_iff]

theorem translates_iff {items : List Json} {outcome : Except Failure (List Constraint)} :
    (ofJson (.array items) >>= constraints) = outcome ↔ Translates items outcome := by
  rw [ofJson_array]
  constructor
  · rintro rfl
    cases read : items.mapM QueryEntry.ofJson with
    | error failure =>
      obtain ⟨before, j, after, rfl, readable, refused⟩ := mapM_eq_error_iff.mp read
      simp only [QueryEntry.ofJson_eq_ok_iff] at readable
      exact .unreadable readable refused
    | ok query =>
      -- Directions are only looked at once every entry is read.
      have read := mapM_ofJson_eq_ok_iff.mp read
      rw [ok_bind]
      cases translated : constraints query with
      | ok cs =>
        exact .translated read (constraints_eq_ok_iff.mp translated)
      | error failure =>
        obtain ⟨x, ⟨before, field, order, after, rfl, directed, undirected⟩, rfl⟩ :=
          constraints_eq_error_iff.mp translated
        exact .undirected read directed undirected
  · intro h
    cases h with
    | translated read each =>
      rw [mapM_ofJson_eq_ok_iff.mpr read, ok_bind]
      exact constraints_eq_ok_iff.mpr each
    | unreadable readable refused =>
      refine bind_eq_error_iff.mpr (.inl (mapM_eq_error_iff.mpr ⟨_, _, _, rfl, ?_, refused⟩))
      exact fun b early => (readable b early).imp fun e => QueryEntry.ofJson_of_writtenAs
    | undirected read directed undirected =>
      rw [mapM_ofJson_eq_ok_iff.mpr read, ok_bind]
      exact constraints_eq_error_iff.mpr ⟨_, ⟨_, _, _, _, rfl, directed, undirected⟩, rfl⟩

/-- A sort may be replaced by one on the same field in the same direction. -/
theorem constraints_sort_congr (before after : Query) (field : String) {order order' : SortOrder}
    {direction : Direction} (directs : order.Directs direction) (directs' : order'.Directs direction) :
    constraints (before ++ .sort field order :: after) =
      constraints (before ++ .sort field order' :: after) := by
  have stands := QueryEntry.constraint_of_standsFor (.sort field directs)
  have stands' := QueryEntry.constraint_of_standsFor (.sort field directs')
  rw [constraints_append, constraints_append, constraints, constraints, stands, stands']

theorem ofJson_sort_congr (before after : List Json) (field : String) {j k : Json}
    {order order' : SortOrder} {direction : Direction} (written : QueryEntry.DirectionWritten j order)
    (written' : QueryEntry.DirectionWritten k order') (directs : order.Directs direction)
    (directs' : order'.Directs direction) :
    (ofJson (.array (before ++ .object [(field, j)] :: after)) >>= constraints) =
      (ofJson (.array (before ++ .object [(field, k)] :: after)) >>= constraints) := by
  rw [ofJson_array, ofJson_array, List.mapM_append, List.mapM_append, List.mapM_cons, List.mapM_cons]
  by_cases other : field = QueryEntry.conditionKey
  · subst other
    rfl
  · rw [QueryEntry.ofJson_of_writtenAs (.sort other written),
      QueryEntry.ofJson_of_writtenAs (.sort other written')]
    cases before.mapM QueryEntry.ofJson with
    | error failure => rfl
    | ok query =>
      cases after.mapM QueryEntry.ofJson with
      | error failure => rfl
      | ok others => exact constraints_sort_congr query others field directs directs'

/-- A query in JSON is translated entry by entry or not at all, and the first entry at fault is
reported, in the first pass that meets one. One query after another has the constraints of the one and
then those of the other. And it makes no difference whether a direction is given by a number or by name,
in an entry or in its JSON. -/
theorem translates_entry_by_entry :
    (∀ items outcome, (ofJson (.array items) >>= constraints) = outcome ↔ Translates items outcome) ∧
      (∀ query others : Query,
        constraints (query ++ others) = do return (← query.constraints) ++ (← others.constraints)) ∧
      (∀ (before after : Query) (field : String) (order order' : SortOrder) (direction : Direction),
        order.Directs direction → order'.Directs direction →
          constraints (before ++ .sort field order :: after) =
            constraints (before ++ .sort field order' :: after)) ∧
      ∀ (before after : List Json) (field : String) (j k : Json) (order order' : SortOrder)
        (direction : Direction), QueryEntry.DirectionWritten j order → order.Directs direction →
          QueryEntry.DirectionWritten k order' → order'.Directs direction →
            (ofJson (.array (before ++ .object [(field, j)] :: after)) >>= constraints) =
              (ofJson (.array (before ++ .object [(field, k)] :: after)) >>= constraints) := by
  refine ⟨fun items outcome => translates_iff, constraints_append, ?_, ?_⟩
  · intro before after field order order' direction directs directs'
    exact constraints_sort_congr before after field directs directs'
  · intro before after field j k order order' direction written directs written' directs'
    exact ofJson_sort_congr before after field written written' directs directs'

/-- The posts with more than ten views, the newest first: asked for with -1 and with a name. -/
theorem translates_entry_by_entry_newest :
    let views := Json.object [("views", .object [("condition", .string "gt"), ("value", .integer 10)])]
    let newest := Json.object [("createdAt", .integer (-1))]
    let newestByName := Json.object [("createdAt", .string "desc")]
    (ofJson (.array [views, newest]) >>= constraints) =
        .ok [.compare "views" .greater (.number (.ofInt 10)), .orderBy "createdAt" .descending] ∧
      (ofJson (.array [views, newest]) >>= constraints) =
        (ofJson (.array [views, newestByName]) >>= constraints) := by
  intro views newest newestByName
  obtain ⟨outcomes, -, -, named⟩ := translates_entry_by_entry
  have filter : QueryEntry.WrittenAs views (.filter "views" .greater (.number (.ofInt 10))) :=
    .filter (.nested rfl (by decide)) (.named .greater) rfl
  have sort : QueryEntry.WrittenAs newest (.sort "createdAt" (.numeric (.ofInt (-1)))) :=
    .sort (by decide) (.integer (-1))
  have each : Translates [views, newest]
      (.ok [.compare "views" .greater (.number (.ofInt 10)), .orderBy "createdAt" .descending]) :=
    .translated (.cons filter (.cons sort .nil))
      (.cons (.filter ..) (.cons (.sort _ .minusOne) .nil))
  have same := named [views] [] "createdAt" _ _ _ _ .descending (.integer (-1)) .minusOne
    (.named .descending) (.named .descending)
  exact ⟨(outcomes _ _).mpr each, same⟩

/-- An entry that is none is reported before a sort without a direction. -/
example : (ofJson (.array [.object [("views", .integer 2)], .string "title"]) >>= constraints) =
    .error (.query (.entryNotObject (.string "title"))) := rfl

end Query

end Docstore
