import Docstore.Proofs.Time.Civil
import Docstore.Time.Instant

/-!
# Whole milliseconds, and the clock of an instant

An instant that counts milliseconds alone is `Instant.floorMillis` of one that counts nanoseconds. The
date and the clock of an instant make up its seconds again (`Instant.dayNumber_date`,
`Instant.clock_eq`), and both are those of the start of its millisecond.
-/

namespace Docstore.Instant

/-! ## The start of a millisecond -/

/-- The start of the millisecond. -/
def floorMillis (t : Instant) : Instant where
  seconds := t.seconds
  nanos := t.nanos / 1000000 * 1000000
  nanos_lt := by
    have := t.nanos_lt
    omega
  leap_ends_minute h := t.leap_ends_minute (by omega)
  first_le := t.first_le
  le_last := t.le_last

/-- An instant is the one with its parts. -/
theorem ofParts?_parts (t : Instant) : ofParts? t.seconds t.nanos = some t :=
  dif_pos ⟨t.nanos_lt, t.leap_ends_minute, t.first_le, t.le_last⟩

theorem ofMillis_of_parts {n : Int} {t : Instant}
    (found : ofParts? (n / 1000) ((n % 1000).toNat * 1000000) = some t) : ofMillis n = t := by
  -- `ofMillis` is opened as a function: to check an equation for one value of it, the kernel would
  -- compute with the numeral in unary.
  suffices opened : ∀ f, f = ofMillis → f n = t from opened _ rfl
  delta ofMillis
  rintro _ rfl
  simp only [found]

theorem ofMillis_millis {t : Instant} (h : t.isLeap = false) : ofMillis t.millis = t.floorMillis := by
  have nanos_lt : t.nanos < 1000000000 := Nat.not_le.mp (of_decide_eq_false h)
  have second : t.millis / 1000 = t.floorMillis.seconds := by
    show t.millis / 1000 = t.seconds
    unfold millis
    omega
  have nano : (t.millis % 1000).toNat * 1000000 = t.floorMillis.nanos := by
    show (t.millis % 1000).toNat * 1000000 = t.nanos / 1000000 * 1000000
    unfold millis
    omega
  exact ofMillis_of_parts (by rw [second, nano, ofParts?_parts])

theorem isLeap_floorMillis (t : Instant) : t.floorMillis.isLeap = t.isLeap := by
  have same_second : 1000000000 ≤ t.nanos / 1000000 * 1000000 ↔ 1000000000 ≤ t.nanos := by omega
  exact decide_eq_decide.mpr same_second

/-- The nanoseconds of the start of a millisecond, in the terms of the clock. -/
theorem nanos_floorMillis (t : Instant) : t.floorMillis.nanos =
    t.subsecond / 1000000 * 1000000 + if t.isLeap then 1000000000 else 0 := by
  have nanos_lt := t.nanos_lt
  rw [floorMillis, subsecond]
  cases leap : t.isLeap with
  | true =>
    have leap_le : 1000000000 ≤ t.nanos := of_decide_eq_true leap
    simp only [if_true]
    omega
  | false =>
    have lt_leap : t.nanos < 1000000000 := Nat.not_le.mp (of_decide_eq_false leap)
    simp only [Bool.false_eq_true, if_false]
    omega

/-! ## The clock -/

/-- The second that an instant is in, also in a leap second. -/
def clockSecond (t : Instant) : Nat := t.secondOfDay % 60

theorem second_eq (t : Instant) : t.second = if t.isLeap then 60 else t.clockSecond := rfl

/-- A leap second is in the last second of its minute. -/
theorem clockSecond_of_isLeap {t : Instant} (h : t.isLeap = true) : t.clockSecond = 59 := by
  have ends := t.leap_ends_minute (of_decide_eq_true h)
  unfold clockSecond secondOfDay
  omega

theorem clock_lt (t : Instant) : t.hour < 24 ∧ t.minute < 60 ∧ t.clockSecond < 60 := by
  unfold hour minute clockSecond secondOfDay
  omega

/-- The clock shows the second of the day. -/
theorem clock_eq (t : Instant) : t.hour * 3600 + t.minute * 60 + t.clockSecond = t.secondOfDay := by
  unfold hour minute clockSecond
  omega

/-- The date and the second of the day are the seconds of an instant. -/
theorem seconds_eq (t : Instant) : t.date.dayNumber * 86400 + t.secondOfDay = t.seconds := by
  rw [date, CivilDate.dayNumber_ofDayNumber]
  unfold secondOfDay
  omega

end Docstore.Instant
