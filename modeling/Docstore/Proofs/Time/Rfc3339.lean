import Docstore.Proofs.Result
import Docstore.Proofs.Text.Bytes
import Docstore.Proofs.Time.Instant
import Docstore.Time.Rfc3339

/-!
# Dates written and read

`Rfc3339.text 3` writes an instant with three decimal places, which is its start of the millisecond.
The reader finds that instant again (`Rfc3339.read_text`) when the year has four digits without a sign,
also in a leap second. Other years are written with a sign, which the reader does not take
(`Rfc3339.read_text_ne_ok`).
-/

namespace Docstore

/-! ## Padded numerals -/

theorem numeral_eq (ds : List Char) : numeral ds = Nat.ofDigitChars 10 ds 0 := by
  rw [Nat.ofDigitChars_eq_foldl, numeral]

theorem toList_padded (width n : Nat) : (padded width n).toList =
    List.replicate (width - (Nat.toDigits 10 n).length) '0' ++ Nat.toDigits 10 n := by
  rw [padded, String.toList_ofList, List.leftpad]

theorem numeral_padded (width n : Nat) : numeral (padded width n).toList = n := by
  rw [toList_padded, numeral_eq, Nat.ofDigitChars_append, Nat.ofDigitChars_replicate_zero, Nat.mul_zero,
    Nat.ofDigitChars_toDigits (by decide) (by decide)]

theorem isDigit_of_mem_padded {width n : Nat} {c : Char} (h : c ∈ (padded width n).toList) :
    c.isDigit = true := by
  rw [toList_padded, List.mem_append, List.mem_replicate] at h
  rcases h with ⟨-, rfl⟩ | h
  · rfl
  · exact Nat.isDigit_of_mem_toDigits (by decide) (by decide) h

theorem le_length_padded (width n : Nat) : width ≤ (padded width n).toList.length := by
  rw [toList_padded, List.length_append, List.length_replicate]
  omega

theorem length_padded {width n : Nat} (positive : 0 < width) (h : n < Nat.pow 10 width) :
    (padded width n).toList.length = width := by
  have digits_le := (Nat.length_toDigits_le_iff (b := 10) (by decide) positive).mpr h
  rw [toList_padded, List.length_append, List.length_replicate]
  omega

/-- The last digit of a padded numeral comes after the others. -/
theorem toList_padded_succ {width : Nat} (positive : 0 < width) (n : Nat) :
    (padded (width + 1) n).toList = (padded width (n / 10)).toList ++ [(n % 10).digitChar] := by
  rw [toList_padded, toList_padded, Nat.toDigits_eq_if (by decide)]
  split
  · next small =>
    have none_left : n / 10 = 0 := by omega
    have last : n % 10 = n := by omega
    rw [none_left, last, Nat.toDigits_zero]
    show List.replicate (width + 1 - 1) '0' ++ _ = List.replicate (width - 1) '0' ++ ['0'] ++ _
    rw [← List.replicate_succ', Nat.sub_add_cancel positive, Nat.add_sub_cancel]
  · rw [List.length_append, List.length_singleton, Nat.add_sub_add_right, List.append_assoc]

/-- The first digits of a padded numeral are those of a quotient. -/
theorem take_padded {width : Nat} (positive : 0 < width) (places : Nat) {n : Nat}
    (h : n < Nat.pow 10 (width + places)) :
    (padded (width + places) n).toList.take width =
      (padded width (n / Nat.pow 10 places)).toList := by
  induction places generalizing n with
  | zero =>
    show (padded width n).toList.take width = (padded width (n / 1)).toList
    rw [Nat.div_one]
    exact List.take_of_length_le (Nat.le_of_eq (length_padded positive h))
  | succ places ih =>
    have rest_lt : n / 10 < Nat.pow 10 (width + places) := by
      have h : n < Nat.pow 10 (width + places) * 10 := h
      omega
    have tenth : n / Nat.pow 10 (places + 1) = n / 10 / Nat.pow 10 places := by
      rw [Nat.div_div_eq_div_mul, Nat.mul_comm]
      rfl
    have width_le : width ≤ (padded (width + places) (n / 10)).toList.length := by
      rw [length_padded (Nat.add_pos_left positive places) rest_lt]
      exact Nat.le_add_right width places
    rw [← Nat.add_assoc, toList_padded_succ (Nat.add_pos_left positive places),
      List.take_append_of_le_length width_le, ih rest_lt, tenth]

namespace Rfc3339

/-! ## The pieces of a text -/

/-- A padded numeral reads back. -/
theorem digits_padded {width n : Nat} (positive : 0 < width) (h : n < Nat.pow 10 width)
    (rest : List Char) :
    digits width ((padded width n).toList ++ rest) = .ok (n, rest) := by
  have length_eq := length_padded positive h
  have all_digits : (padded width n).toList.all Char.isDigit = true :=
    List.all_eq_true.mpr fun c hc => isDigit_of_mem_padded hc
  rw [digits, List.take_left' length_eq, List.drop_left' length_eq, numeral_padded]
  exact if_pos ⟨length_eq, all_digits⟩

theorem oneOf_cons {allowed : List Char} {c : Char} (h : allowed.contains c = true)
    (rest : List Char) : oneOf allowed (c :: rest) = .ok ((), rest) :=
  if_pos h

/-- The characters of a date. -/
def dateChars (d : CivilDate) : List Char :=
  (yearText d.year).toList ++ '-' :: ((padded 2 d.month).toList ++ '-' :: (padded 2 d.day).toList)

/-- The characters of a clock with three decimal places. -/
def clockChars (t : Instant) : List Char :=
  (padded 2 t.hour).toList ++ ':' :: ((padded 2 t.minute).toList ++ ':' :: ((padded 2 t.second).toList
    ++ '.' :: (padded 3 (t.subsecond / 1000000)).toList))

theorem toList_text (t : Instant) :
    (text 3 t).toList = dateChars t.date ++ 'T' :: (clockChars t ++ ['Z']) := by
  have subsecond_lt : t.subsecond < Nat.pow 10 (3 + 6) := Nat.mod_lt _ (by decide)
  have places : (padded 9 t.subsecond).toList.take 3 = (padded 3 (t.subsecond / 1000000)).toList :=
    take_padded (by decide) 6 subsecond_lt
  simp [text, dateChars, clockChars, String.toList_append, places]

/-- The year of a date is written without a sign. -/
def FourDigitYear (d : CivilDate) : Prop := 0 ≤ d.year ∧ d.year ≤ 9999

/-- A date of a year without a sign reads back. -/
theorem date_dateChars {d : CivilDate} (year : FourDigitYear d) (valid : d.IsValid)
    (rest : List Char) : date (dateChars d ++ rest) = .ok (d, rest) := by
  obtain ⟨⟨-, month_le⟩, -, day_le⟩ := id valid
  have month_lt : d.month < Nat.pow 10 2 := Nat.lt_of_le_of_lt month_le (by decide)
  have day_lt : d.day < Nat.pow 10 2 :=
    Nat.lt_of_le_of_lt (Nat.le_trans day_le (CivilDate.daysInMonth_le d.year d.month)) (by decide)
  have year_lt : d.year.natAbs < Nat.pow 10 4 := by
    obtain ⟨_, _⟩ := year
    exact Nat.lt_of_le_of_lt (by omega : d.year.natAbs ≤ 9999) (by decide)
  have unsigned : yearText d.year = padded 4 d.year.natAbs := by
    rw [yearText, if_neg (Int.not_lt.mpr year.1), if_neg (Int.not_lt.mpr year.2)]
  have same_year : ((d.year.natAbs : Nat) : Int) = d.year := Int.natAbs_of_nonneg year.1
  have hyphen : ['-'].contains '-' = true := rfl
  simp only [dateChars, unsigned, List.append_assoc, List.cons_append]
  rw [date, digits_padded (by decide) year_lt]
  simp only [ok_bind, oneOf_cons hyphen]
  rw [digits_padded (by decide) month_lt]
  simp only [ok_bind, oneOf_cons hyphen]
  rw [digits_padded (by decide) day_lt]
  simp only [ok_bind, same_year]
  exact if_pos valid

/-- Three places of a fraction are milliseconds. -/
theorem fraction_padded {millis : Nat} (h : millis < 1000) (rest : List Char) :
    fraction ('.' :: ((padded 3 millis).toList ++ 'Z' :: rest)) =
      .ok (millis * 1000000, 'Z' :: rest) := by
  have length_eq : (padded 3 millis).toList.length = 3 := length_padded (by decide) h
  have taken : ((padded 3 millis).toList ++ 'Z' :: rest).takeWhile Char.isDigit =
      (padded 3 millis).toList := by
    rw [List.takeWhile_append_of_pos fun c hc => isDigit_of_mem_padded hc]
    exact List.append_nil _
  have left : ((padded 3 millis).toList ++ 'Z' :: rest).dropWhile Char.isDigit = 'Z' :: rest := by
    rw [List.dropWhile_append_of_pos fun c hc => isDigit_of_mem_padded hc]
    rfl
  have not_empty : (padded 3 millis).toList.isEmpty = false := by
    rw [List.isEmpty_eq_false_iff_exists_mem]
    exact List.length_pos_iff_exists_mem.mp (by omega)
  have scaled : numeral (((padded 3 millis).toList.take 9).rightpad 9 '0') = millis * 1000000 := by
    rw [List.take_of_length_le (by omega), List.rightpad, length_eq, numeral_eq,
      Nat.ofDigitChars_append, Nat.ofDigitChars_replicate_zero, ← numeral_eq, numeral_padded,
      Nat.mul_comm]
  simp only [fraction, taken, left, not_empty, scaled]
  rfl

/-- The clock of an instant, without what is finer than a millisecond. -/
theorem timeOfDay_clockChars (t : Instant) (rest : List Char) :
    timeOfDay (clockChars t ++ 'Z' :: rest) =
      .ok ((t.secondOfDay, t.floorMillis.nanos), 'Z' :: rest) := by
  obtain ⟨hour_lt, minute_lt, second_lt⟩ := t.clock_lt
  have second_le : t.second ≤ 60 := by
    rw [t.second_eq]
    split <;> omega
  have millis_lt : t.subsecond / 1000000 < 1000 := by
    unfold Instant.subsecond
    omega
  have colon : [':'].contains ':' = true := rfl
  have two_digits {n : Nat} (le : n ≤ 60) : n < Nat.pow 10 2 := Nat.lt_of_le_of_lt le (by decide)
  simp only [clockChars, List.append_assoc, List.cons_append]
  rw [timeOfDay, digits_padded (by decide) (two_digits (by omega))]
  simp only [ok_bind, oneOf_cons colon]
  rw [digits_padded (by decide) (two_digits (by omega))]
  simp only [ok_bind, oneOf_cons colon]
  rw [digits_padded (by decide) (two_digits second_le)]
  simp only [ok_bind]
  rw [fraction_padded millis_lt]
  simp only [ok_bind]
  rw [if_neg (by omega), t.nanos_floorMillis, ← t.clock_eq, t.second_eq]
  cases leap : t.isLeap with
  | true => simp [t.clockSecond_of_isLeap leap, pure, Except.pure]
  | false => simp [Nat.ne_of_lt second_lt, pure, Except.pure]

theorem shortestSize_le_text (t : Instant) : shortestSize ≤ (text 3 t).utf8ByteSize := by
  have length_le := length_le_utf8ByteSize (text 3 t).toList
  have month_le := le_length_padded 2 t.date.month
  have day_le := le_length_padded 2 t.date.day
  have hour_le := le_length_padded 2 t.hour
  have minute_le := le_length_padded 2 t.minute
  have second_le := le_length_padded 2 t.second
  have millis_le := le_length_padded 3 (t.subsecond / 1000000)
  rw [String.ofList_toList, toList_text, dateChars, clockChars] at length_le
  simp only [List.length_append, List.length_cons, List.length_nil] at length_le
  unfold shortestSize
  omega

/-! ## Instants -/

/-- A text reads as the instant that has the seconds of the date and what the reader makes of the
clock. -/
theorem read_text_of_clock {t u : Instant} (year : FourDigitYear t.date)
    (clock : timeOfDay (clockChars t ++ ['Z']) = .ok ((t.secondOfDay, u.nanos), ['Z']))
    (parts : Instant.ofParts? t.seconds u.nanos = some u) : read (text 3 t) = .ok u := by
  have valid : t.date.IsValid := CivilDate.isValid_ofDayNumber _
  have separator : ['T', 't', ' '].contains 'T' = true := rfl
  have utc : offset ['Z'] = .ok (0, []) := rfl
  have zero_ahead : ¬ 24 * 60 ≤ (0 : Int).natAbs := by decide
  rw [read, if_neg (Nat.not_lt.mpr (shortestSize_le_text t)), toList_text, date_dateChars year valid]
  simp only [ok_bind, oneOf_cons separator, clock, utc, List.isEmpty_nil, if_true, zero_ahead,
    if_false, t.seconds_eq, Int.zero_mul, Int.sub_zero, parts]
  rfl

/-- An instant of a year with four digits reads back, up to its millisecond. -/
theorem read_text {t : Instant} (year : FourDigitYear t.date) :
    read (text 3 t) = .ok t.floorMillis :=
  read_text_of_clock year (timeOfDay_clockChars t []) t.floorMillis.ofParts?_parts

/-- A year with a sign is not read. -/
theorem read_text_ne_ok {t u : Instant} (year : ¬ FourDigitYear t.date) :
    read (text 3 t) ≠ .ok u := by
  have signed : ∃ sign cs, (text 3 t).toList = sign :: cs ∧ sign.isDigit = false := by
    rw [toList_text, dateChars, yearText]
    by_cases negative : t.date.year < 0
    · rw [if_pos negative, String.toList_append]
      exact ⟨'-', _, rfl, rfl⟩
    · have late : 9999 < t.date.year := by
        unfold FourDigitYear at year
        omega
      rw [if_neg negative, if_pos late, String.toList_append]
      exact ⟨'+', _, rfl, rfl⟩
  obtain ⟨sign, cs, written, no_digit⟩ := signed
  have refused : digits 4 (sign :: cs) = .error .invalid := by
    refine if_neg fun h => ?_
    have all_digits := h.2
    rw [List.take_succ_cons, List.all_cons, no_digit] at all_digits
    cases all_digits
  rw [read, written, date, refused]
  split <;> exact nofun

/-- The text of an instant does not show what is finer than a millisecond. -/
theorem text_floorMillis (t : Instant) : text 3 t.floorMillis = text 3 t := by
  have second : t.floorMillis.second = t.second := by
    rw [t.floorMillis.second_eq, t.second_eq, t.isLeap_floorMillis]
    rfl
  have millis : t.floorMillis.subsecond / 1000000 = t.subsecond / 1000000 := by
    simp only [Instant.subsecond, Instant.floorMillis]
    omega
  rw [← String.toList_inj, toList_text, toList_text, clockChars, clockChars, second, millis]
  rfl

end Rfc3339

end Docstore
