import Clearing.Instant.Basic

/-!
# Dates and days

A day has the number of its date: counting back from the date of a day gives the day. Years begin in March, so
that a date is found first by its year and then by its day in it.
-/

namespace Clearing.Date

/-- The date of a day in a year that begins in March. -/
def ofDayOfYear (year day : Int) : Date :=
  let shifted := (5 * day + 2) / 153
  let month := if shifted < 10 then shifted + 3 else shifted - 9
  { year := year + if month ≤ 2 then 1 else 0
    month := month.toNat
    day := (day - (153 * shifted + 2) / 5 + 1).toNat }

theorem ofDayOfYear_before_january {year day : Int} (h : 0 ≤ day) (hmonth : (5 * day + 2) / 153 < 10) :
    ofDayOfYear year day = {
      year
      month := ((5 * day + 2) / 153 + 3).toNat
      day := (day - (153 * ((5 * day + 2) / 153) + 2) / 5 + 1).toNat } := by
  have hlate : ¬ (5 * day + 2) / 153 + 3 ≤ 2 := by omega
  simp only [ofDayOfYear, if_pos hmonth, if_neg hlate, Int.add_zero]

theorem ofDayOfYear_from_january {year day : Int} (h : day ≤ 365) (hmonth : ¬ (5 * day + 2) / 153 < 10) :
    ofDayOfYear year day = {
      year := year + 1
      month := ((5 * day + 2) / 153 - 9).toNat
      day := (day - (153 * ((5 * day + 2) / 153) + 2) / 5 + 1).toNat } := by
  have hearly : (5 * day + 2) / 153 - 9 ≤ 2 := by omega
  simp only [ofDayOfYear, if_neg hmonth, if_pos hearly]

theorem dayNumber_ofDayOfYear (year : Int) {day : Int} (h : 0 ≤ day) (h' : day ≤ 365) :
    (ofDayOfYear year day).dayNumber =
      year / 400 * 146097 + (year % 400 * 365 + year % 400 / 4 - year % 400 / 100 + day) - 719468 := by
  by_cases hmonth : (5 * day + 2) / 153 < 10
  · have hlate : ¬ ((5 * day + 2) / 153 + 3).toNat ≤ 2 := by omega
    simp only [ofDayOfYear_before_january h hmonth, dayNumber, if_neg hlate, if_pos (Nat.not_le.mp hlate)]
    omega
  · have hearly : ((5 * day + 2) / 153 - 9).toNat ≤ 2 := by omega
    simp only [ofDayOfYear_from_january h' hmonth, dayNumber, if_pos hearly, if_neg (Nat.not_lt.mpr hearly),
      Int.add_sub_cancel]
    omega

/-- The year in which a day of an era of 400 years lies, and the bounds of its day in that year. -/
theorem yearOfEra_bounds {day year : Int} (h : 0 ≤ day) (h' : day < 146097)
    (hyear : year = (day - day / 1460 + day / 36524 - day / 146096) / 365) :
    0 ≤ year ∧ year < 400 ∧ 365 * year + year / 4 - year / 100 ≤ day ∧
      day ≤ 365 * year + year / 4 - year / 100 + 365 := by
  -- Once the century is known, the leap years are those of a plain cycle of four years.
  have hcentury : day / 36524 = 0 ∨ day / 36524 = 1 ∨ day / 36524 = 2 ∨ day / 36524 = 3 ∨ day = 146096 := by omega
  have hlast : day ≠ 146096 → day / 146096 = 0 := by omega
  rcases hcentury with hc | hc | hc | hc | rfl
  · rw [hc, hlast (by omega)] at hyear
    have hyears : year / 100 = 0 := by omega
    omega
  · rw [hc, hlast (by omega)] at hyear
    have hyears : year / 100 = 1 := by omega
    omega
  · rw [hc, hlast (by omega)] at hyear
    have hyears : year / 100 = 2 := by omega
    omega
  · rw [hc, hlast (by omega)] at hyear
    have hyears : year / 100 = 3 := by omega
    omega
  · omega

/-- The date of a day has the number of the day. -/
theorem dayNumber_ofDayNumber (days : Int) : (ofDayNumber days).dayNumber = days := by
  have hfirst : 0 ≤ (days + 719468) % 146097 := by omega
  have hlast : (days + 719468) % 146097 < 146097 := by omega
  obtain ⟨hyear, hyear', hday, hday'⟩ := yearOfEra_bounds hfirst hlast rfl
  have hera : ∀ year era : Int, 0 ≤ year → year < 400 →
      (year + era * 400) / 400 = era ∧ (year + era * 400) % 400 = year := by
    intro year era _ _
    omega
  obtain ⟨hquotient, hremainder⟩ := hera _ ((days + 719468) / 146097) hyear hyear'
  have hdate : ofDayNumber days = ofDayOfYear _ _ := rfl
  rw [hdate, dayNumber_ofDayOfYear _ (by omega) (by omega), hquotient, hremainder]
  omega

end Clearing.Date
