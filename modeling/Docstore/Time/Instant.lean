import Docstore.Time.Civil

/-!
# Instants

A moment in time, to the nanosecond. A leap second has no number of its own in a count of seconds:
it is the second before it with a thousand million nanoseconds or more, and that is only allowed in
the last second of a minute. The range is the one the calendar is kept for, the years −262143 to
262142; both rules are part of the type.

Stored documents keep whole milliseconds. `Instant.millis` counts them, rounding towards the past,
and `Instant.ofMillis` goes back, taking a count outside the range to the nearest end of it.
-/

namespace Docstore

/-- A moment in time: seconds since 1970-01-01T00:00:00Z and nanoseconds into that second. -/
structure Instant where
  seconds : Int
  nanos : Nat
  nanos_lt : nanos < 2000000000
  leap_ends_minute : 1000000000 ≤ nanos → seconds % 60 = 59
  first_le : -8334601228800 ≤ seconds
  le_last : seconds ≤ 8210266876799
deriving DecidableEq

namespace Instant

/-- The first second of the range, -262143-01-01T00:00:00Z. -/
def firstSecond : Int := -8334601228800

/-- The last second of the range, 262142-12-31T23:59:59Z. -/
def lastSecond : Int := 8210266876799

/-- The instant with the given parts, if there is one. -/
def ofParts? (seconds : Int) (nanos : Nat) : Option Instant :=
  if h : nanos < 2000000000 ∧ (1000000000 ≤ nanos → seconds % 60 = 59)
      ∧ -8334601228800 ≤ seconds ∧ seconds ≤ 8210266876799 then
    some ⟨seconds, nanos, h.1, h.2.1, h.2.2.1, h.2.2.2⟩
  else none

/-- The first instant. -/
def first : Instant := ⟨firstSecond, 0, by decide, by decide, by decide, by decide⟩

/-- The last instant that is not in a leap second. -/
def last : Instant := ⟨lastSecond, 999999999, by decide, by decide, by decide, by decide⟩

/-- Instants are ordered by their second, then by their nanosecond. -/
instance : Ord Instant where
  compare a b := (compare a.seconds b.seconds).then (compare a.nanos b.nanos)

def isLeap (t : Instant) : Bool := decide (1000000000 ≤ t.nanos)

/-- Milliseconds since 1970-01-01T00:00:00Z, rounded towards the past. -/
def millis (t : Instant) : Int :=
  t.seconds * 1000 + (t.nanos / 1000000 : Nat)

/-- The instant a number of milliseconds after 1970-01-01T00:00:00Z, or the end of the range nearest
to it. -/
def ofMillis (n : Int) : Instant :=
  match ofParts? (n / 1000) ((n % 1000).toNat * 1000000) with
  | some t => t
  | none => if n < 0 then first else last

/-- The civil date in UTC. -/
def date (t : Instant) : CivilDate := CivilDate.ofDayNumber (t.seconds / 86400)

/-- The second of the day in UTC. -/
def secondOfDay (t : Instant) : Nat := (t.seconds % 86400).toNat

def hour (t : Instant) : Nat := t.secondOfDay / 3600

def minute (t : Instant) : Nat := t.secondOfDay / 60 % 60

/-- The second of the minute; 60 in a leap second. -/
def second (t : Instant) : Nat := if t.isLeap then 60 else t.secondOfDay % 60

/-- Nanoseconds into the second that `second` names. -/
def subsecond (t : Instant) : Nat := t.nanos % 1000000000

example : (CivilDate.mk (-262143) 1 1).dayNumber * 86400 = firstSecond := by decide

example : (CivilDate.mk 262142 12 31).dayNumber * 86400 + 86399 = lastSecond := by decide

/-- Equal parts make equal instants. -/
theorem eq_of_parts_eq {a b : Instant} (hs : a.seconds = b.seconds) (hn : a.nanos = b.nanos) :
    a = b := by
  cases a; cases b; cases hs; cases hn; rfl

end Instant

end Docstore
