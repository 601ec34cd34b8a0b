import Docstore.Text.Numeral
import Docstore.Time.Instant

/-!
# Dates in RFC 3339 form

`Rfc3339.read` reads a date and time with an offset, such as `2024-03-01T12:00:00.5+01:00`, and
`Rfc3339.text` writes one in UTC with a chosen number of decimal places. The reader takes a lower
case `t` or `z`, a space between date and time, and the minus sign U+2212 before an offset; it drops
digits past nanoseconds and takes second 60 for a leap second.

A text with two faults is blamed for the one met first from left to right, with three exceptions: a
text shorter than a date with seconds is too short whatever it holds, the calendar and the clock are
checked as soon as the date and the time are read, and an offset of a day or more is only blamed
when nothing follows it.
-/

namespace Docstore.Rfc3339

/-- What can be wrong with a date. -/
inductive Fault where
  | tooShort
  | invalid
  | outOfRange
  | tooLong
deriving DecidableEq, Repr

def Fault.message : Fault → String
  | .tooShort => "premature end of input"
  | .invalid => "input contains invalid characters"
  | .outOfRange => "input is out of range"
  | .tooLong => "trailing input"

/-- A reader of the start of a text: what it found, and the rest. -/
abbrev Reader (α : Type) := List Char → Except Fault (α × List Char)

/-- Exactly `n` digits. -/
def digits (n : Nat) : Reader Nat := fun cs =>
  let ds := cs.take n
  if ds.length = n ∧ ds.all Char.isDigit then .ok (numeral ds, cs.drop n) else .error .invalid

/-- One character out of a list of allowed ones. -/
def oneOf (allowed : List Char) : Reader Unit
  | [] => .error .tooShort
  | c :: rest => if allowed.contains c then .ok ((), rest) else .error .invalid

/-- Two digits, of a field that may also be cut off: a text without room for two bytes is too short,
whatever it holds. -/
def twoDigits : Reader Nat := fun cs =>
  if (String.ofList (cs.take 2)).utf8ByteSize < 2 then .error .tooShort else digits 2 cs

/-- The nanoseconds of a fraction, which starts with a point, or zero. -/
def fraction : Reader Nat
  | '.' :: cs =>
    let ds := cs.takeWhile Char.isDigit
    let rest := cs.dropWhile Char.isDigit
    if ds.isEmpty then .error (if rest.isEmpty then .tooShort else .invalid)
    else .ok (numeral ((ds.take 9).rightpad 9 '0'), rest)
  | cs => .ok (0, cs)

/-- The hours and minutes of an offset, after its sign. -/
def offsetMinutes : Reader Nat := fun cs => do
  let (hours, cs) ← twoDigits cs
  let ((), cs) ← oneOf [':'] cs
  let (minutes, cs) ← twoDigits cs
  if 59 < minutes then throw .outOfRange
  return (hours * 60 + minutes, cs)

/-- The minutes that the clock is ahead of UTC. -/
def offset : Reader Int
  | [] => .error .tooShort
  | c :: cs =>
    if c = 'Z' ∨ c = 'z' then .ok (0, cs)
    else if c = '+' then do
      let (n, cs) ← offsetMinutes cs
      return ((n : Int), cs)
    else if c = '-' ∨ c = '\u2212' then do
      let (n, cs) ← offsetMinutes cs
      return (-(n : Int), cs)
    else .error .invalid

/-- A date of the calendar, with a year of four digits. -/
def date : Reader CivilDate := fun cs => do
  let (year, cs) ← digits 4 cs
  let ((), cs) ← oneOf ['-'] cs
  let (month, cs) ← digits 2 cs
  let ((), cs) ← oneOf ['-'] cs
  let (day, cs) ← digits 2 cs
  let date : CivilDate := ⟨year, month, day⟩
  if date.IsValid then return (date, cs) else throw .outOfRange

/-- A time of day, as its second and its nanosecond. -/
def timeOfDay : Reader (Nat × Nat) := fun cs => do
  let (hour, cs) ← digits 2 cs
  let ((), cs) ← oneOf [':'] cs
  let (minute, cs) ← digits 2 cs
  let ((), cs) ← oneOf [':'] cs
  let (second, cs) ← digits 2 cs
  let (nanos, cs) ← fraction cs
  if 23 < hour ∨ 59 < minute ∨ 60 < second then throw .outOfRange
  let (second, nanos) := if second = 60 then (59, nanos + 1000000000) else (second, nanos)
  return ((hour * 3600 + minute * 60 + second, nanos), cs)

/-- The shortest text with a date, a separator and a time has this many bytes. -/
def shortestSize : Nat := 19

/-- Reads a whole text. -/
def read (s : String) : Except Fault Instant :=
  if s.utf8ByteSize < shortestSize then .error .tooShort
  else do
    let (date, cs) ← date s.toList
    let ((), cs) ← oneOf ['T', 't', ' '] cs
    let ((second, nanos), cs) ← timeOfDay cs
    let (ahead, cs) ← offset cs
    unless cs.isEmpty do throw .tooLong
    if 24 * 60 ≤ ahead.natAbs then throw .outOfRange
    match Instant.ofParts? (date.dayNumber * 86400 + second - ahead * 60) nanos with
    | some t => return t
    | none => throw .outOfRange

/-- A year has four digits, and a sign when it is not among the years 0 to 9999. -/
def yearText (year : Int) : String :=
  let digits := padded 4 year.natAbs
  if year < 0 then "-" ++ digits else if 9999 < year then "+" ++ digits else digits

/-- The date of an instant in UTC, with `places` decimal places of its second; what lies beyond them
is dropped. -/
def text (places : Nat) (t : Instant) : String :=
  let d := t.date
  yearText d.year ++ "-" ++ padded 2 d.month ++ "-" ++ padded 2 d.day
    ++ "T" ++ padded 2 t.hour ++ ":" ++ padded 2 t.minute ++ ":" ++ padded 2 t.second
    ++ "." ++ String.ofList ((padded 9 t.subsecond).toList.take places) ++ "Z"

end Docstore.Rfc3339
