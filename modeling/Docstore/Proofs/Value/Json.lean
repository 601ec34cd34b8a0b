import Docstore.Proofs.Number.Rounding
import Docstore.Proofs.Result
import Docstore.Proofs.Time.Rfc3339
import Docstore.Value.Json

/-!
# Values written in JSON and read again

What is read of a written value is `Value.reread`: zero for minus zero, null for what JSON has no number
for, and dates at the start of their milliseconds. None of this shows when it is written again
(`Value.toJson_reread`). Only a date of a year with a sign is not read again, and an offset can take a
date that was read into such a year, so a value has to have none of these at any depth
(`Value.exists_reread_iff`).
-/

namespace Docstore.Value

/-! ## Numbers -/

/-- What is read of a written number. -/
def rereadNumber (x : Binary64) : Value := if x.isFinite then .number x.withPlusZero else .null

theorem numberJson_of_magnitude_eq_zero {x : Binary64} (h : x.magnitude = 0) :
    numberJson x = .integer 0 := by
  rw [numberJson, Binary64.toInt?_of_magnitude_eq_zero h]
  rfl

theorem ofJson_numberJson (x : Binary64) : ofJson (numberJson x) = .ok (rereadNumber x) := by
  rw [rereadNumber]
  by_cases zero : x.magnitude = 0
  · have finite : x.isFinite = true := by
      rw [Binary64.isFinite, zero]
      decide
    rw [numberJson_of_magnitude_eq_zero zero, if_pos finite, Binary64.withPlusZero, if_pos zero, ofJson,
      Binary64.ofInt_zero]
  · rw [Binary64.withPlusZero_of_ne_zero zero, numberJson]
    cases whole : x.toInt? with
    | none => cases x.isFinite <;> rfl
    | some n =>
      have itself : Binary64.ofInt n = x :=
        (Binary64.ofInt_of_toInt? whole).trans (Binary64.withPlusZero_of_ne_zero zero)
      dsimp only
      rw [if_pos (Binary64.isFinite_of_toInt? whole)]
      split
      · rw [ofJson, itself]
      · rfl

theorem numberJson_withPlusZero (x : Binary64) : numberJson x.withPlusZero = numberJson x := by
  by_cases zero : x.magnitude = 0
  · rw [numberJson_of_magnitude_eq_zero zero, Binary64.withPlusZero, if_pos zero]
    exact numberJson_of_magnitude_eq_zero (by decide)
  · rw [Binary64.withPlusZero_of_ne_zero zero]

/-- A number is written as it was before it was read. -/
theorem toJson_rereadNumber (x : Binary64) : (rereadNumber x).toJson = numberJson x := by
  unfold rereadNumber
  cases finite : x.isFinite with
  | false =>
    have not_whole : x.toInt? = none := by
      refine Option.eq_none_iff_forall_ne_some.mpr fun n whole => ?_
      rw [Binary64.isFinite_of_toInt? whole] at finite
      cases finite
    simp [toJson, numberJson, not_whole, finite]
  | true => exact numberJson_withPlusZero x

/-! ## Values -/

/-- Every date, at any depth, has a year of four digits. -/
inductive FourDigitYears : Value → Prop
  | null : FourDigitYears .null
  | boolean (b : Bool) : FourDigitYears (.boolean b)
  | number (x : Binary64) : FourDigitYears (.number x)
  | date {t : Instant} (h : Rfc3339.FourDigitYear t.date) : FourDigitYears (.date t)
  | string (s : String) : FourDigitYears (.string s)
  | array {items : List Value} (h : ∀ v ∈ items, FourDigitYears v) : FourDigitYears (.array items)

mutual

/-- What is read of a written value. -/
def reread : Value → Value
  | .null => .null
  | .boolean b => .boolean b
  | .number x => rereadNumber x
  | .date t => .date t.floorMillis
  | .string s => .string s
  | .array items => .array (rereadItems items)

/-- What is read of the written items of an array. -/
def rereadItems : List Value → List Value
  | [] => []
  | v :: vs => v.reread :: rereadItems vs

end

theorem itemsOfJson_itemsToJson {items : List Value}
    (each : ∀ v ∈ items, ofJson v.toJson = .ok v.reread) :
    itemsOfJson (itemsToJson items) = .ok (rereadItems items) := by
  induction items with
  | nil => rfl
  | cons v vs ih =>
    obtain ⟨first, rest⟩ := List.forall_mem_cons.mp each
    rw [itemsToJson, itemsOfJson, first, ih rest]
    rfl

/-- A written value with years of four digits is read. -/
theorem ofJson_toJson {v : Value} (h : v.FourDigitYears) : ofJson v.toJson = .ok v.reread := by
  induction h with
  | null => rfl
  | boolean b => rfl
  | number x => exact ofJson_numberJson x
  | date year =>
    rw [toJson, dateJson, ofJson, if_pos rfl, dateOfText, Rfc3339.read_text year]
    rfl
  | string s => rfl
  | array _ each =>
    rw [toJson, ofJson, itemsOfJson_itemsToJson each]
    rfl

theorem itemsToJson_rereadItems {items : List Value} (each : ∀ v ∈ items, v.reread.toJson = v.toJson) :
    itemsToJson (rereadItems items) = itemsToJson items := by
  induction items with
  | nil => rfl
  | cons v vs ih =>
    obtain ⟨first, rest⟩ := List.forall_mem_cons.mp each
    rw [rereadItems, itemsToJson, itemsToJson, first, ih rest]

/-- What is read of a written value is written as the value was. -/
theorem toJson_reread (v : Value) : v.reread.toJson = v.toJson := by
  induction v using Value.induction with
  | null => rfl
  | boolean b => rfl
  | number x => exact toJson_rereadNumber x
  | date t => exact congrArg (fun s => Json.object [(dateKey, .string s)]) (Rfc3339.text_floorMillis t)
  | string s => rfl
  | array items each => exact congrArg Json.array (itemsToJson_rereadItems each)

theorem forall_ofJson_of_itemsOfJson {items ws : List Value}
    (h : itemsOfJson (itemsToJson items) = .ok ws) : ∀ v ∈ items, ∃ w, ofJson v.toJson = .ok w := by
  induction items generalizing ws with
  | nil => exact List.forall_mem_nil _
  | cons v vs ih =>
    obtain ⟨w, first, rest⟩ := bind_eq_ok_iff.mp h
    obtain ⟨ws, rest, -⟩ := bind_eq_ok_iff.mp rest
    exact List.forall_mem_cons.mpr ⟨⟨w, first⟩, ih rest⟩

/-- A written value is only read if its years have four digits. -/
theorem fourDigitYears_of_ofJson_toJson {v w : Value} (h : ofJson v.toJson = .ok w) :
    v.FourDigitYears := by
  induction v using Value.induction generalizing w with
  | null => exact .null
  | boolean b => exact .boolean b
  | number x => exact .number x
  | date t =>
    rw [toJson, dateJson, ofJson, if_pos rfl, dateOfText] at h
    split at h
    · next u read =>
      exact .date (Classical.byContradiction fun year => Rfc3339.read_text_ne_ok year read)
    · cases h
  | string s => exact .string s
  | array items each =>
    obtain ⟨ws, read, -⟩ := bind_eq_ok_iff.mp h
    refine .array fun v hv => ?_
    obtain ⟨w, read⟩ := forall_ofJson_of_itemsOfJson read v hv
    exact each v hv read

/-- A value can be written and read again, to be written in the same way, just if its years have four
digits. -/
theorem exists_reread_iff (v : Value) :
    (∃ w, ofJson v.toJson = .ok w ∧ w.toJson = v.toJson) ↔ v.FourDigitYears := by
  constructor
  · rintro ⟨w, read, -⟩
    exact fourDigitYears_of_ofJson_toJson read
  · intro years
    exact ⟨v.reread, ofJson_toJson years, toJson_reread v⟩

/-- The first of January of the year 0, on a clock that is ahead of UTC. -/
def earlyDate : Instant :=
  ⟨-62167305540, 0, Instant.first.nanos_lt, by decide, by decide, by decide⟩

/-- It is not so that every value that was read can be written and read again. -/
theorem not_forall_accepted_rereads :
    ¬ ∀ (j : Json) (v : Value), ofJson j = .ok v →
      ∃ w, ofJson v.toJson = .ok w ∧ w.toJson = v.toJson := by
  intro rereads
  have accepted : ofJson (.object [("$date", .string "0000-01-01T00:00:00+23:59")]) =
      .ok (.date earlyDate) := rfl
  obtain ⟨w, read, -⟩ := rereads _ _ accepted
  cases fourDigitYears_of_ofJson_toJson read with
  | date year => exact absurd year.1 (by decide)

end Docstore.Value
