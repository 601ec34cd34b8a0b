/-!
# Civil dates

The proleptic Gregorian calendar, as a numbering of days: `CivilDate.dayNumber` counts from
1970-01-01 and `CivilDate.ofDayNumber` goes back. Both count years from the first of March, which
puts the leap day at the end of a year, and group them in eras of 400 years, which all have
146097 days.
-/

namespace Docstore

structure CivilDate where
  year : Int
  month : Nat
  day : Nat
deriving DecidableEq, Repr

namespace CivilDate

def isLeapYear (year : Int) : Bool :=
  year % 4 = 0 ∧ (year % 100 ≠ 0 ∨ year % 400 = 0)

def daysInMonth (year : Int) (month : Nat) : Nat :=
  match month with
  | 2 => if isLeapYear year then 29 else 28
  | 4 | 6 | 9 | 11 => 30
  | _ => 31

/-- The dates of the calendar. -/
def IsValid (d : CivilDate) : Prop :=
  (1 ≤ d.month ∧ d.month ≤ 12) ∧ 1 ≤ d.day ∧ d.day ≤ daysInMonth d.year d.month

instance (d : CivilDate) : Decidable d.IsValid := by unfold IsValid; infer_instance

/-- Days in an era of 400 years. -/
def daysPerEra : Nat := 146097

/-- The day number of the first day of era zero, 0000-03-01, with its sign changed. -/
def eraZeroOffset : Nat := 719468

/-- Days from the first of March to the first of the month that comes `n` months later. -/
def daysBeforeMonth (n : Nat) : Nat := (153 * n + 2) / 5

/-- Days from the start of an era to the start of the year that comes `n` years later. -/
def daysBeforeYear (n : Nat) : Nat := n * 365 + n / 4 - n / 100

/-- Days since 1970-01-01. -/
def dayNumber (d : CivilDate) : Int :=
  let year := if d.month ≤ 2 then d.year - 1 else d.year
  let month := (d.month + 9) % 12
  year / 400 * daysPerEra
    + (daysBeforeYear (year % 400).toNat + daysBeforeMonth month + (d.day - 1) : Nat)
    - eraZeroOffset

/-- The date that comes a number of days after 1970-01-01. -/
def ofDayNumber (n : Int) : CivilDate :=
  let era := (n + eraZeroOffset) / daysPerEra
  let day := ((n + eraZeroOffset) % daysPerEra).toNat
  let year := (day - day / 1460 + day / 36524 - day / 146096) / 365
  let day := day - daysBeforeYear year
  let month := (5 * day + 2) / 153
  { year := year + era * 400 + if month < 10 then 0 else 1
    month := if month < 10 then month + 3 else month - 9
    day := day - daysBeforeMonth month + 1 }

end CivilDate

end Docstore
