import Docstore.Value.Bson
import Docstore.Value.Order

/-!
# Comparisons before and after storing

A value is compared in two places: in memory as a value, and in a database in its BSON form.
`Bson.compare?` is how a database compares two scalars, kind by kind. `Value.compare?_toBson` says
that the two agree for the values that lose nothing when they are stored (`Value.Portable`): dates
of whole milliseconds, which are all that BSON keeps, and no NaN, to which a database gives a place.

Only the operand has to be a scalar here. A value that is not is beside every scalar on both sides.
-/

namespace Docstore

/-! ## Dates -/

namespace Instant

/-- A date that BSON keeps: whole milliseconds, and not in a leap second. -/
def WholeMillis (t : Instant) : Prop := t.nanos % 1000000 = 0 ∧ t.isLeap = false

theorem WholeMillis.nanos_lt_second {t : Instant} (h : t.WholeMillis) : t.nanos < 1000000000 :=
  Nat.not_le.mp (of_decide_eq_false h.2)

/-- Counting milliseconds keeps the order of dates that have nothing finer. -/
theorem compare_millis {s t : Instant} (hs : s.WholeMillis) (ht : t.WholeMillis) :
    compare s.millis t.millis = compare s t := by
  have s_lt := hs.nanos_lt_second
  have t_lt := ht.nanos_lt_second
  have s_whole := hs.1
  have t_whole := ht.1
  show compare s.millis t.millis = (compare s.seconds t.seconds).then (compare s.nanos t.nanos)
  unfold millis
  rcases Int.lt_trichotomy s.seconds t.seconds with second | second | second
  · rw [Int.compare_eq_lt.mpr second, Int.compare_eq_lt.mpr (by omega)]
    rfl
  · rw [Int.compare_eq_eq.mpr second]
    show _ = compare s.nanos t.nanos
    rcases Nat.lt_trichotomy s.nanos t.nanos with nano | nano | nano
    · rw [Nat.compare_eq_lt.mpr nano, Int.compare_eq_lt.mpr (by omega)]
    · rw [Nat.compare_eq_eq.mpr nano, Int.compare_eq_eq.mpr (by omega)]
    · rw [Nat.compare_eq_gt.mpr nano, Int.compare_eq_gt.mpr (by omega)]
  · rw [Int.compare_eq_gt.mpr second, Int.compare_eq_gt.mpr (by omega)]
    rfl

theorem compare_eq_eq_iff {s t : Instant} : compare s t = .eq ↔ s = t := by
  show (compare s.seconds t.seconds).then (compare s.nanos t.nanos) = .eq ↔ s = t
  rw [Ordering.then_eq_eq, Int.compare_eq_eq, Nat.compare_eq_eq]
  constructor
  · exact fun h => eq_of_parts_eq h.1 h.2
  · rintro rfl
    exact ⟨rfl, rfl⟩

end Instant

/-! ## Values -/

namespace Binary64

theorem compare?_swap (x y : Binary64) : (x.compare? y).map Ordering.swap = y.compare? x := by
  unfold compare?
  rw [Bool.or_comm]
  split
  · rfl
  · exact congrArg some (Std.OrientedOrd.eq_swap).symm

theorem sameValue_comm (x y : Binary64) : x.sameValue y = y.sameValue x := by
  unfold sameValue
  rw [← compare?_swap x y]
  rcases x.compare? y with _ | o
  · rfl
  · cases o <;> rfl

end Binary64

namespace Value

/-- A value that is neither null nor an array. -/
def IsScalar (v : Value) : Prop := v.isNull = false ∧ v.isArray = false

/-- A value that BSON keeps and that compares there as it does here, at any depth of arrays. -/
inductive Portable : Value → Prop where
  | null : Portable .null
  | boolean (b : Bool) : Portable (.boolean b)
  | number {x : Binary64} (h : x.isNaN = false) : Portable (.number x)
  | date {t : Instant} (h : t.WholeMillis) : Portable (.date t)
  | string (s : String) : Portable (.string s)
  | array {items : List Value} (h : ∀ v ∈ items, Portable v) : Portable (.array items)

/-- A scalar that compares in a database as it does here. -/
def PortableScalar (v : Value) : Prop := v.IsScalar ∧ v.Portable

theorem itemsToBson_eq_map (vs : List Value) : itemsToBson vs = vs.map toBson := by
  induction vs with
  | nil => rfl
  | cons v vs ih => rw [itemsToBson, List.map_cons, ih]

/-- A scalar equals what stands at the same place in the order of scalars. -/
theorem same_iff_compare? {v operand : Value} (scalar : operand.IsScalar) :
    v.same operand = true ↔ v.compare? operand = some .eq := by
  cases operand with
  | null => exact nomatch scalar.1
  | array _ => exact nomatch scalar.2
  | boolean b =>
    cases v with
    | boolean a => cases a <;> cases b <;> decide
    | _ => simp [same, compare?]
  | number y =>
    cases v with
    | number x => simp [same, compare?, Binary64.sameValue]
    | _ => simp [same, compare?]
  | date t =>
    cases v with
    | date s => simp [same, compare?, Instant.compare_eq_eq_iff]
    | _ => simp [same, compare?]
  | string t =>
    cases v with
    | string s => simp [same, compare?]
    | _ => simp [same, compare?]

/-- It does not matter which of two values is compared with the other, if one is a scalar. -/
theorem same_comm_of_isScalar {v operand : Value} (scalar : operand.IsScalar) :
    operand.same v = v.same operand := by
  cases operand with
  | null => exact nomatch scalar.1
  | array _ => exact nomatch scalar.2
  | boolean b => cases v <;> simp [same, Bool.beq_comm]
  | number y => cases v <;> simp [same, Binary64.sameValue_comm]
  | date t => cases v <;> simp [same, Bool.beq_comm]
  | string t => cases v <;> simp [same, Bool.beq_comm]

end Value

/-! ## BSON values -/

namespace Bson

/-- How a database orders two scalars of one kind. Values of two kinds are beside each other. -/
def compare? : Bson → Bson → Option Ordering
  | .null, .null => some .eq
  | .boolean a, .boolean b => some (compare a b)
  | .double x, .double y => x.compare? y
  | .date m, .date n => some (compare m n)
  | .string s, .string t => some (compare s t)
  | _, _ => none

end Bson

/-- Storing keeps how a value compares with a scalar. -/
theorem Value.compare?_toBson {v operand : Value} (hv : v.Portable)
    (scalar : operand.PortableScalar) : v.toBson.compare? operand.toBson = v.compare? operand := by
  cases scalar.2 with
  | null => exact nomatch scalar.1.1
  | array _ => exact nomatch scalar.1.2
  | date ht =>
    cases hv with
    | date hs => exact congrArg some (Instant.compare_millis hs ht)
    | _ => rfl
  | _ => cases hv <;> rfl

end Docstore
