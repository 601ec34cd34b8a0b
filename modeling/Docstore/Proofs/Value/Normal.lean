import Docstore.Proofs.Table.Reading
import Docstore.Proofs.Value.Json

/-!
# What JSON keeps of a value

JSON has no minus zero, and it keeps the milliseconds of a date. So `Value.normalized` is the most that
can be read of a written value, and it is read just if JSON has a form for every number and every year
(`Document.rereads_normalized_iff`). A filter or a schema sees no difference when the dates had nothing
finer than milliseconds (`Value.same_reread_iff`): it takes the two zeros for equal.

What is read in any case is `Value.reread`. The laws here compare it with the value itself, item by
item.
-/

namespace Docstore

namespace Instant

theorem floorMillis_eq_self_iff {t : Instant} : t.floorMillis = t ↔ t.nanos % 1000000 = 0 := by
  constructor
  · intro h
    have nanos : t.nanos / 1000000 * 1000000 = t.nanos := congrArg Instant.nanos h
    omega
  · intro h
    refine eq_of_parts_eq rfl ?_
    show t.nanos / 1000000 * 1000000 = t.nanos
    omega

end Instant

namespace Binary64

theorem isNaN_of_isFinite {x : Binary64} (h : x.isFinite = true) : x.isNaN = false :=
  decide_eq_false (Nat.not_lt.mpr (Nat.le_of_lt (of_decide_eq_true h)))

/-- The sign of zero does not count. -/
theorem sameValue_withPlusZero {x : Binary64} (h : x.isNaN = false) :
    x.sameValue x.withPlusZero = true := by
  have itself (y : Binary64) : compare y.rank y.rank = .eq := Std.ReflOrd.compare_self
  by_cases zero : x.magnitude = 0
  · have rank : x.rank = 0 := by
      rw [rank, zero]
      cases x.isNegative <;> rfl
    have plus : x.withPlusZero = .zero false := if_pos zero
    rw [plus, sameValue, compare?, h, rank]
    decide
  · rw [withPlusZero_of_ne_zero zero, sameValue, compare?, h, Bool.or_false, itself]
    rfl

end Binary64

namespace Value

/-- Every number and every date, at any depth, is as asked. -/
inductive Each (P : Binary64 → Prop) (Q : Instant → Prop) : Value → Prop
  | null : Each P Q .null
  | boolean (b : Bool) : Each P Q (.boolean b)
  | number {x : Binary64} (h : P x) : Each P Q (.number x)
  | date {t : Instant} (h : Q t) : Each P Q (.date t)
  | string (s : String) : Each P Q (.string s)
  | array {items : List Value} (h : ∀ v ∈ items, Each P Q v) : Each P Q (.array items)

/-- No number, at any depth, is infinite or a NaN. -/
def FiniteNumbers (v : Value) : Prop := v.Each (fun x => x.isFinite = true) fun _ => True

/-- No number, at any depth, is infinite or a NaN, and every date is a whole millisecond. -/
def Settled (v : Value) : Prop :=
  v.Each (fun x => x.isFinite = true) fun t => t.nanos % 1000000 = 0

section

variable {P : Binary64 → Prop} {Q : Instant → Prop}

theorem each_number_iff {x : Binary64} : (number x).Each P Q ↔ P x :=
  ⟨fun | .number h => h, .number⟩

theorem each_date_iff {t : Instant} : (date t).Each P Q ↔ Q t :=
  ⟨fun | .date h => h, .date⟩

theorem each_array_iff {items : List Value} : (array items).Each P Q ↔ ∀ v ∈ items, v.Each P Q :=
  ⟨fun | .array h => h, .array⟩

end

mutual

/-- A value with zero in place of minus zero, and with its dates at the start of their milliseconds; a
date in a leap second stays in it. -/
def normalized : Value → Value
  | .null => .null
  | .boolean b => .boolean b
  | .number x => .number x.withPlusZero
  | .date t => .date t.floorMillis
  | .string s => .string s
  | .array items => .array (normalizedItems items)

/-- The items of an array, each one normalized. -/
def normalizedItems : List Value → List Value
  | [] => []
  | v :: vs => v.normalized :: normalizedItems vs

end

theorem rereadItems_eq_normalizedItems_iff {items : List Value} :
    rereadItems items = normalizedItems items ↔ ∀ v ∈ items, v.reread = v.normalized := by
  induction items with
  | nil => simp [rereadItems, normalizedItems]
  | cons v vs ih => simp [rereadItems, normalizedItems, ih]

/-- What is read of a written value is the value, normalized, if it has no number without a form. -/
theorem reread_eq_normalized_iff {v : Value} : v.reread = v.normalized ↔ v.FiniteNumbers := by
  induction v using Value.induction with
  | null => exact iff_of_true rfl .null
  | boolean b => exact iff_of_true rfl (.boolean b)
  | date t => exact iff_of_true rfl (.date trivial)
  | string s => exact iff_of_true rfl (.string s)
  | number x =>
    rw [reread, normalized, rereadNumber, FiniteNumbers, each_number_iff]
    cases x.isFinite <;> simp
  | array items each =>
    rw [reread, normalized, Value.array.injEq, rereadItems_eq_normalizedItems_iff, FiniteNumbers,
      each_array_iff]
    exact forall₂_congr each

theorem sameItems_rereadItems_iff {items : List Value} :
    sameItems items (rereadItems items) = true ↔ ∀ v ∈ items, v.same v.reread = true := by
  induction items with
  | nil => simp [rereadItems, sameItems]
  | cons v vs ih => simp [rereadItems, sameItems, ih]

/-- What is read of a written value equals the value, if it has no number without a form and no date
with something finer than a millisecond. -/
theorem same_reread_iff {v : Value} : v.same v.reread = true ↔ v.Settled := by
  induction v using Value.induction with
  | null => exact iff_of_true rfl .null
  | boolean b => exact iff_of_true (beq_self_eq_true b) (.boolean b)
  | string s => exact iff_of_true (beq_self_eq_true s) (.string s)
  | date t =>
    rw [reread, same, beq_iff_eq, eq_comm, Instant.floorMillis_eq_self_iff, Settled, each_date_iff]
  | number x =>
    rw [reread, rereadNumber, Settled, each_number_iff]
    cases finite : x.isFinite with
    | true =>
      have not_nan := Binary64.isNaN_of_isFinite finite
      exact iff_of_true (Binary64.sameValue_withPlusZero not_nan) rfl
    | false => simp [same]
  | array items each =>
    rw [reread, same, sameItems_rereadItems_iff, Settled, each_array_iff]
    exact forall₂_congr each

/-- A written value is read if its years have four digits, and as nothing else. -/
theorem ofJson_toJson_eq_ok_iff {v w : Value} :
    ofJson v.toJson = .ok w ↔ w = v.reread ∧ v.FourDigitYears := by
  constructor
  · intro read
    have years := fourDigitYears_of_ofJson_toJson read
    exact ⟨Except.ok.inj (read.symm.trans (ofJson_toJson years)), years⟩
  · rintro ⟨rfl, years⟩
    exact ofJson_toJson years

/-- A written value is read as itself, normalized, if JSON has a form for its numbers and years. -/
theorem ofJson_toJson_eq_normalized_iff {v : Value} :
    ofJson v.toJson = .ok v.normalized ↔ v.FiniteNumbers ∧ v.FourDigitYears := by
  rw [ofJson_toJson_eq_ok_iff, eq_comm, reread_eq_normalized_iff]

end Value

namespace Document

/-- Written values, and documents field by field, are read as they were, with zero for minus zero and
dates at whole milliseconds: just if every number in them is finite and every year has four digits. -/
theorem rereads_normalized_iff :
    (∀ v : Value, Value.ofJson v.toJson = .ok v.normalized ↔ v.FiniteNumbers ∧ v.FourDigitYears) ∧
      ∀ d : Document, Document.ofJson d.toJson = .ok (d.map Value.normalized) ↔
        ∀ n v, d.get? n = some v → v.FiniteNumbers ∧ v.FourDigitYears := by
  refine ⟨fun v => Value.ofJson_toJson_eq_normalized_iff, fun d => ?_⟩
  rw [toJson, ofJson_object, Table.readAll_map_iff]
  simp only [Value.ofJson_toJson_eq_normalized_iff]

end Document

end Docstore
