import Docstore.Proofs.Bson.Order

/-!
# Arrays before and after storing

In memory two arrays are equal when their items are, and neither comes before the other. A database has
an order of arrays: by the first items that differ, then by length (`Bson.orderItems`). It orders items
of two kinds as well. How it does so is left open here (`apart`), since only one thing matters:
that they do not tie (`Bson.TellsKinds`).

So the two sides agree on which arrays are equal (`Value.compareWhole?_toBson_eq_iff`), at any depth,
for values that lose nothing when they are stored. On the order they do not: in memory there is none.
-/

namespace Docstore

/-! ## Equality of values -/

namespace Value

theorem same_of_kind_ne {v w : Value} (h : v.kind ≠ w.kind) : v.same w = false := by
  cases v <;> cases w <;> first | rfl | exact absurd rfl h

theorem sameItems_comm {xs ys : List Value} (ih : ∀ x ∈ xs, ∀ y, x.same y = y.same x) :
    sameItems xs ys = sameItems ys xs := by
  induction xs generalizing ys with
  | nil => cases ys <;> rfl
  | cons x xs ihs =>
    obtain ⟨first, rest⟩ := List.forall_mem_cons.mp ih
    cases ys with
    | nil => rfl
    | cons y ys => rw [sameItems, sameItems, first y, ihs rest]

/-- It does not matter which of two values is compared with the other. -/
theorem same_comm (v w : Value) : v.same w = w.same v := by
  induction v using Value.induction generalizing w with
  | null => cases w <;> rfl
  | array xs ih =>
    cases w with
    | array ys => exact sameItems_comm ih
    | _ => rfl
  | boolean b => exact same_comm_of_isScalar ⟨rfl, rfl⟩
  | number x => exact same_comm_of_isScalar ⟨rfl, rfl⟩
  | date t => exact same_comm_of_isScalar ⟨rfl, rfl⟩
  | string s => exact same_comm_of_isScalar ⟨rfl, rfl⟩

end Value

/-! ## The order of a database -/

namespace Bson

variable (apart : Bson → Bson → Ordering)

mutual

/-- How a database orders two values inside arrays. Where it has no comparison, as for two kinds,
`apart` decides. -/
def order : Bson → Bson → Ordering
  | .array xs, .array ys => orderItems xs ys
  | a, b => (a.compare? b).getD (apart a b)

/-- How a database orders arrays: by the first items that differ, else the shorter one first. -/
def orderItems : List Bson → List Bson → Ordering
  | [], [] => .eq
  | [], _ :: _ => .lt
  | _ :: _, [] => .gt
  | x :: xs, y :: ys => (order x y).then (orderItems xs ys)

end

/-- How a database compares a candidate with an operand: an array with arrays only. -/
def compareWhole? : Bson → Bson → Option Ordering
  | .array xs, .array ys => some (orderItems apart xs ys)
  | a, b => a.compare? b

/-- Values of two kinds never tie. -/
def TellsKinds : Prop := ∀ v w : Value, v.kind ≠ w.kind → apart v.toBson w.toBson ≠ .eq

end Bson

namespace Value

variable {apart : Bson → Bson → Ordering} {v w : Value}

/-- Values of two kinds do not tie, and are not equal. -/
theorem order_eq_iff_of_kind_ne (told : Bson.TellsKinds apart) (h : v.kind ≠ w.kind) :
    Bson.order apart v.toBson w.toBson = .eq ↔ v.same w = true := by
  have decided : Bson.order apart v.toBson w.toBson = apart v.toBson w.toBson := by
    cases v <;> cases w <;> first | rfl | exact absurd rfl h
  rw [decided, same_of_kind_ne h]
  exact iff_of_false (told v w h) Bool.false_ne_true

/-- Scalars of one kind have an order, in which equal ones tie. -/
theorem order_eq_iff_of_compare? {o : Ordering} (hv : v.Portable) (scalar : w.PortableScalar)
    (compared : v.compare? w = some o) :
    Bson.order apart v.toBson w.toBson = .eq ↔ v.same w = true := by
  have stored : v.toBson.compare? w.toBson = some o := by
    rw [compare?_toBson hv scalar, compared]
  have no_arrays : Bson.order apart v.toBson w.toBson =
      (v.toBson.compare? w.toBson).getD (apart v.toBson w.toBson) := by
    cases v <;> first | rfl | cases compared
  rw [no_arrays, stored, Option.getD_some, same_iff_compare? scalar.1, compared, Option.some.injEq]

theorem orderItems_toBson_eq_iff {xs ys : List Value} (hys : ∀ y ∈ ys, y.Portable)
    (ih : ∀ x ∈ xs, ∀ y : Value, y.Portable →
      (Bson.order apart x.toBson y.toBson = .eq ↔ x.same y = true)) :
    Bson.orderItems apart (itemsToBson xs) (itemsToBson ys) = .eq ↔ sameItems xs ys = true := by
  induction xs generalizing ys with
  | nil => cases ys <;> simp [itemsToBson, Bson.orderItems, sameItems]
  | cons x xs ihs =>
    obtain ⟨first, rest⟩ := List.forall_mem_cons.mp ih
    cases ys with
    | nil => simp [itemsToBson, Bson.orderItems, sameItems]
    | cons y ys =>
      obtain ⟨hy, hys⟩ := List.forall_mem_cons.mp hys
      rw [itemsToBson, itemsToBson, Bson.orderItems, Ordering.then_eq_eq, first y hy, ihs hys rest,
        sameItems, Bool.and_eq_true]

/-- In the order of a database, values tie when they are equal in memory. -/
theorem order_toBson_eq_iff (told : Bson.TellsKinds apart) (hv : v.Portable) (hw : w.Portable) :
    Bson.order apart v.toBson w.toBson = .eq ↔ v.same w = true := by
  by_cases kinds : v.kind = w.kind
  case neg => exact order_eq_iff_of_kind_ne told kinds
  induction hv generalizing w with
  | null =>
    cases w <;> cases kinds
    exact iff_of_true rfl rfl
  | boolean a =>
    cases w <;> cases kinds
    exact order_eq_iff_of_compare? (.boolean a) ⟨⟨rfl, rfl⟩, hw⟩ rfl
  | @number x not_nan =>
    cases hw <;> cases kinds
    next y hy =>
      have compared : x.compare? y = some (compare x.rank y.rank) := by
        simp [Binary64.compare?, not_nan, hy]
      exact order_eq_iff_of_compare? (.number not_nan) ⟨⟨rfl, rfl⟩, .number hy⟩ compared
  | date whole =>
    cases w <;> cases kinds
    exact order_eq_iff_of_compare? (.date whole) ⟨⟨rfl, rfl⟩, hw⟩ rfl
  | string s =>
    cases w <;> cases kinds
    exact order_eq_iff_of_compare? (.string s) ⟨⟨rfl, rfl⟩, hw⟩ rfl
  | @array xs _ ih =>
    cases hw <;> cases kinds
    next ys hys =>
      refine orderItems_toBson_eq_iff hys fun x hx y hy => ?_
      by_cases kinds : x.kind = y.kind
      · exact ih x hx hy kinds
      · exact order_eq_iff_of_kind_ne told kinds

theorem compareWhole?_eq_iff_of_isScalar (hv : v.Portable) (scalar : w.PortableScalar) :
    Bson.compareWhole? apart v.toBson w.toBson = some .eq ↔ v.same w = true := by
  have no_arrays : Bson.compareWhole? apart v.toBson w.toBson = v.toBson.compare? w.toBson := by
    cases w with
    | array _ => exact nomatch scalar.1.2
    | _ => cases v <;> rfl
  rw [no_arrays, compare?_toBson hv scalar, same_iff_compare? scalar.1]

/-- A database finds a candidate equal to an operand when the values are equal in memory. -/
theorem compareWhole?_toBson_eq_iff (told : Bson.TellsKinds apart) (hv : v.Portable)
    (hw : w.Portable) :
    Bson.compareWhole? apart v.toBson w.toBson = some .eq ↔ v.same w = true := by
  cases hw with
  | null => cases v <;> simp [toBson, Bson.compareWhole?, Bson.compare?, same]
  | @array ys hys =>
    cases hv with
    | @array xs hxs =>
      have arrays := order_toBson_eq_iff told (.array hxs) (.array hys)
      exact Option.some_inj.trans arrays
    | _ => simp [toBson, Bson.compareWhole?, Bson.compare?, same]
  | boolean b => exact compareWhole?_eq_iff_of_isScalar hv ⟨⟨rfl, rfl⟩, .boolean b⟩
  | number not_nan => exact compareWhole?_eq_iff_of_isScalar hv ⟨⟨rfl, rfl⟩, .number not_nan⟩
  | date whole => exact compareWhole?_eq_iff_of_isScalar hv ⟨⟨rfl, rfl⟩, .date whole⟩
  | string s => exact compareWhole?_eq_iff_of_isScalar hv ⟨⟨rfl, rfl⟩, .string s⟩

end Value

end Docstore
