import Docstore.Time.Civil

/-!
# From days to dates and back

`CivilDate.ofDayNumber` gives a date of the calendar, and that date has the day number it came from
(`CivilDate.dayNumber_ofDayNumber`). An era has four centuries, these have blocks of four years, and a
block ends in its leap day (`CivilDate.exists_day_of_era`). The quotient that `ofDayNumber` takes for
the year of an era counts the blocks as if they had no leap day, and is right all the same
(`CivilDate.yearOfEra_eq`).
-/

namespace Docstore.CivilDate

/-! ## Years of an era -/

/-- The year of an era that a day of the era is in, as `ofDayNumber` computes it. -/
def yearOfEra (day : Nat) : Nat := (day - day / 1460 + day / 36524 - day / 146096) / 365

/-- A day of an era is day `k` of a year, which is in a block of four years of a century. Only the last
year of a block has a day 365, and the last block of a century has it in the last century alone. -/
theorem exists_day_of_era {day : Nat} (h : day < daysPerEra) :
    ∃ century block year k, century < 4 ∧ block < 25 ∧ year < 4 ∧ k ≤ 365 ∧
      (k = 365 → year = 3 ∧ (block = 24 → century = 3)) ∧
      day = 36524 * century + 1461 * block + 365 * year + k := by
  unfold daysPerEra at h
  obtain ⟨century, r, hc, hr, rfl⟩ : ∃ century r, century < 4 ∧
      (r < 36524 ∨ century = 3 ∧ r = 36524) ∧ day = 36524 * century + r :=
    ⟨min (day / 36524) 3, day - 36524 * min (day / 36524) 3, by omega⟩
  obtain ⟨block, s, hb, hs, rfl⟩ : ∃ block s, block < 25 ∧ s < 1461 ∧ r = 1461 * block + s :=
    ⟨r / 1461, r % 1461, by omega⟩
  obtain ⟨year, k, hy, hk, rfl⟩ : ∃ year k, year < 4 ∧ (k < 365 ∨ year = 3 ∧ k = 365) ∧
      s = 365 * year + k :=
    ⟨min (s / 365) 3, s - 365 * min (s / 365) 3, by omega⟩
  exact ⟨century, block, year, k, hc, hb, hy, by omega, by omega, by omega⟩

theorem yearOfEra_eq {century block year k : Nat} (hc : century < 4) (hb : block < 25) (hy : year < 4)
    (hk : k ≤ 365) (leap : k = 365 → year = 3 ∧ (block = 24 → century = 3)) :
    yearOfEra (36524 * century + 1461 * block + 365 * year + k) =
      100 * century + 4 * block + year := by
  unfold yearOfEra
  generalize written : 36524 * century + 1461 * block + 365 * year + k = day
  have centuries : day / 36524 = century + day / 146096 := by
    by_cases final : day = 146096
    · omega
    · have : day / 146096 = 0 := by omega
      omega
  -- Near the end of a block the count of blocks is ahead by one, on a day that can spare it.
  have blocks : day / 1460 = 25 * century + block ∨
      day / 1460 = 25 * century + block + 1 ∧ year = 3 ∧ 1 ≤ k := by omega
  have without_leap_days : day - day / 1460 + day / 36524 - day / 146096 =
      365 * (100 * century + 4 * block + year) + (k - (day / 1460 - (25 * century + block))) := by
    rw [centuries]
    clear centuries
    generalize day / 146096 = ahead
    omega
  have in_year : k - (day / 1460 - (25 * century + block)) < 365 := by omega
  rw [without_leap_days]
  omega

/-- A day of an era is a day of the year that `yearOfEra` computes. The day 365 is the leap day of the
civil year that the year ends in. -/
theorem exists_day_of_year {day : Nat} (h : day < daysPerEra) :
    ∃ k ≤ 365, day = daysBeforeYear (yearOfEra day) + k ∧ yearOfEra day < 400 ∧
      (k = 365 → (yearOfEra day + 1) % 4 = 0 ∧
        ((yearOfEra day + 1) % 100 ≠ 0 ∨ (yearOfEra day + 1) % 400 = 0)) := by
  obtain ⟨century, block, year, k, hc, hb, hy, hk, leap, rfl⟩ := exists_day_of_era h
  rw [yearOfEra_eq hc hb hy hk leap]
  unfold daysBeforeYear
  exact ⟨k, hk, by omega, by omega, by omega⟩

/-! ## Months of a year -/

theorem daysInMonth_le (year : Int) (month : Nat) : daysInMonth year month ≤ 31 := by
  unfold daysInMonth
  split
  · split <;> decide
  all_goals decide

/-- The month of a day of a year, as months from March. -/
def monthOfYear (k : Nat) : Nat := (5 * k + 2) / 153

/-- The civil date of day `k` of a year that starts in March of `marchYear`. -/
def ofDayOfYear (marchYear : Int) (k : Nat) : CivilDate where
  year := marchYear + if monthOfYear k < 10 then 0 else 1
  month := if monthOfYear k < 10 then monthOfYear k + 3 else monthOfYear k - 9
  day := k - daysBeforeMonth (monthOfYear k) + 1

theorem daysBeforeMonth_monthOfYear_le {k : Nat} (h : k ≤ 365) :
    monthOfYear k ≤ 11 ∧ daysBeforeMonth (monthOfYear k) ≤ k := by
  unfold daysBeforeMonth monthOfYear
  omega

/-- The days of a year are in the calendar, the day 365 if the civil year it ends in is a leap year. -/
theorem isValid_ofDayOfYear {marchYear : Int} {k : Nat} (h : k ≤ 365)
    (leap : k = 365 → isLeapYear (marchYear + 1) = true) : (ofDayOfYear marchYear k).IsValid := by
  have month_le := (daysBeforeMonth_monthOfYear_le h).1
  have in_month : 5 * k + 2 < 153 * (monthOfYear k + 1) := by
    unfold monthOfYear
    omega
  unfold ofDayOfYear IsValid daysBeforeMonth
  generalize monthOfYear k = m at month_le in_month ⊢
  by_cases february : m = 11
  · subst february
    by_cases last : k = 365
    · simp [daysInMonth, leap last, last]
    · have day_le : k - 337 + 1 ≤ 28 := by omega
      have in_february : 28 ≤ if isLeapYear (marchYear + 1) = true then 29 else 28 := by
        split <;> decide
      exact ⟨⟨Nat.le_add_left 1 1, Nat.le_add_left 2 10⟩, Nat.le_add_left 1 _,
        Nat.le_trans day_le in_february⟩
  · have months : m = 0 ∨ m = 1 ∨ m = 2 ∨ m = 3 ∨ m = 4 ∨ m = 5 ∨ m = 6 ∨ m = 7 ∨ m = 8 ∨ m = 9 ∨
        m = 10 := by omega
    rcases months with rfl | rfl | rfl | rfl | rfl | rfl | rfl | rfl | rfl | rfl | rfl <;>
      simp [daysInMonth] <;> omega

theorem dayNumber_of_march {d : CivilDate} {era : Int} {year month : Nat} (hy : year < 400)
    (in_year : (if d.month ≤ 2 then d.year - 1 else d.year) = era * 400 + year)
    (in_month : (d.month + 9) % 12 = month) :
    d.dayNumber = era * daysPerEra +
      (daysBeforeYear year + daysBeforeMonth month + (d.day - 1) : Nat) - eraZeroOffset := by
  have era_eq : (era * 400 + year) / 400 = era := by omega
  have year_eq : ((era * 400 + year) % 400).toNat = year := by omega
  simp only [dayNumber, in_year, in_month, era_eq, year_eq]

/-- The date of a day of a year has the number of that day. -/
theorem dayNumber_ofDayOfYear (era : Int) {year k : Nat} (hy : year < 400) (h : k ≤ 365) :
    (ofDayOfYear (era * 400 + year) k).dayNumber =
      era * daysPerEra + (daysBeforeYear year + k : Nat) - eraZeroOffset := by
  obtain ⟨month_le, before⟩ := daysBeforeMonth_monthOfYear_le h
  have days : daysBeforeYear year + daysBeforeMonth (monthOfYear k) +
      (k - daysBeforeMonth (monthOfYear k) + 1 - 1) = daysBeforeYear year + k := by omega
  rw [← days]
  by_cases early : monthOfYear k < 10
  · refine dayNumber_of_march hy ?_ ?_ <;> simp only [ofDayOfYear, if_pos early] <;> omega
  · refine dayNumber_of_march hy ?_ ?_ <;> simp only [ofDayOfYear, if_neg early] <;> omega

/-! ## Dates -/

/-- The date of a day is that of a day of a year of its era. -/
theorem exists_ofDayNumber_eq (n : Int) :
    ∃ (era : Int) (year k : Nat), year < 400 ∧ k ≤ 365 ∧
      (k = 365 → isLeapYear (era * 400 + year + 1) = true) ∧
      n = era * daysPerEra + (daysBeforeYear year + k : Nat) - eraZeroOffset ∧
      ofDayNumber n = ofDayOfYear (era * 400 + year) k := by
  have day_lt : ((n + eraZeroOffset) % daysPerEra).toNat < daysPerEra := by
    unfold daysPerEra
    omega
  obtain ⟨k, hk, in_year, hy, leap⟩ := exists_day_of_year day_lt
  have counted : n = (n + eraZeroOffset) / daysPerEra * daysPerEra +
      ((n + eraZeroOffset) % daysPerEra).toNat - eraZeroOffset := by
    unfold daysPerEra
    omega
  have written : ofDayNumber n = ofDayOfYear ((n + eraZeroOffset) / daysPerEra * 400 +
      yearOfEra ((n + eraZeroOffset) % daysPerEra).toNat)
      (((n + eraZeroOffset) % daysPerEra).toNat -
        daysBeforeYear (yearOfEra ((n + eraZeroOffset) % daysPerEra).toNat)) := by
    rw [Int.add_comm (_ * 400)]
    rfl
  generalize ((n + eraZeroOffset) % daysPerEra).toNat = day at in_year hy leap counted written
  generalize (n + eraZeroOffset) / daysPerEra = era at counted written
  refine ⟨era, yearOfEra day, k, hy, hk, fun last => ?_, ?_, ?_⟩
  · have leap_year := leap last
    simp only [isLeapYear, decide_eq_true_eq]
    omega
  · rw [counted, ← in_year]
  · have rest : day - daysBeforeYear (yearOfEra day) = k := by omega
    rw [written, rest]

/-- The date of a day is in the calendar. -/
theorem isValid_ofDayNumber (n : Int) : (ofDayNumber n).IsValid := by
  obtain ⟨era, year, k, hy, hk, leap, -, date⟩ := exists_ofDayNumber_eq n
  rw [date]
  exact isValid_ofDayOfYear hk leap

/-- The date of a day has the number of that day. -/
theorem dayNumber_ofDayNumber (n : Int) : (ofDayNumber n).dayNumber = n := by
  obtain ⟨era, year, k, hy, hk, -, counted, date⟩ := exists_ofDayNumber_eq n
  rw [date, dayNumber_ofDayOfYear era hy hk, ← counted]

end Docstore.CivilDate
