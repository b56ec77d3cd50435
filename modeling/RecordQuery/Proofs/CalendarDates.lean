import Mathlib
import RecordQuery.Time.Calendar

/-!
# Dates and days

The date of a day is a date of the calendar, and counting its days gives the day back. The year
within an era of 400 years comes from a quotient that grows with the day, so it is enough to
look at the first and the last day of each of the 400 years.
-/

namespace RecordQuery.Time

/-- The day of the era on which a year of the era begins, the years counted from March. -/
def yearStart (year : Nat) : Nat :=
  365 * year + year / 4 - year / 100 + year / 400

def plainDays (day : Nat) : Nat :=
  day - day / 1460 + day / 36524 - day / 146096

theorem plainDays_succ {day : Nat} (h : day + 1 < 146097) :
    plainDays day ≤ plainDays (day + 1) := by
  simp only [plainDays]
  omega

theorem plainDays_mono {a b : Nat} (hle : a ≤ b) (h : b < 146097) :
    plainDays a ≤ plainDays b := by
  induction hle with
  | refl => exact Nat.le_refl _
  | step hle ih => exact Nat.le_trans (ih (by omega)) (plainDays_succ h)

theorem plainDays_ends : ∀ year < 400, plainDays (yearStart year) / 365 = year ∧
    plainDays (yearStart (year + 1) - 1) / 365 = year ∧ yearStart (year + 1) ≤ 146097 := by
  decide +kernel

theorem exists_year {day : Nat} (bound : Nat) (h : day < yearStart bound) :
    ∃ year < bound, yearStart year ≤ day ∧ day < yearStart (year + 1) := by
  induction bound with
  | zero => exact absurd h (by simp [yearStart])
  | succ bound ih =>
      by_cases hbefore : day < yearStart bound
      · obtain ⟨year, hyear, hstart⟩ := ih hbefore
        exact ⟨year, by omega, hstart⟩
      · exact ⟨bound, by omega, by omega, h⟩

theorem yearOfEra_spec {day : Nat} (h : day < 146097) :
    plainDays day / 365 < 400 ∧ yearStart (plainDays day / 365) ≤ day ∧
      day < yearStart (plainDays day / 365 + 1) := by
  obtain ⟨year, hyear, hstart, hend⟩ : ∃ year < 400, yearStart year ≤ day ∧
      day < yearStart (year + 1) := exists_year 400 h
  obtain ⟨hfirst, hlast, hbound⟩ := plainDays_ends year hyear
  have hlow := Nat.div_le_div_right (c := 365) (plainDays_mono hstart h)
  have hhigh := Nat.div_le_div_right (c := 365)
    (plainDays_mono (show day ≤ yearStart (year + 1) - 1 by omega) (by omega))
  have heq : plainDays day / 365 = year := by omega
  rw [heq]
  exact ⟨hyear, hstart, hend⟩

theorem year_length {year : Nat} (h : year < 400) :
    yearStart (year + 1) ≤ yearStart year + 366 := by
  simp only [yearStart]
  omega

/-! ### Months -/

/-- The month, counted from March, of a day of the year. -/
def marchMonth (day : Nat) : Nat :=
  (5 * day + 2) / 153

def civilMonth (day : Nat) : Nat :=
  if marchMonth day < 10 then marchMonth day + 3 else marchMonth day - 9

def dayOfMonth (day : Nat) : Nat :=
  day - (153 * marchMonth day + 2) / 5 + 1

theorem month_spec : ∀ day < 366, 1 ≤ civilMonth day ∧ civilMonth day ≤ 12 ∧
    1 ≤ dayOfMonth day ∧ (153 * ((civilMonth day + 9) % 12) + 2) / 5 + dayOfMonth day - 1 = day ∧
    (civilMonth day ≤ 2 ↔ 306 ≤ day) := by
  decide +kernel

theorem dayOfMonth_le : ∀ day < 366, (civilMonth day = 2 → dayOfMonth day ≤ 29) ∧
    (civilMonth day = 2 → dayOfMonth day = 29 → day = 365) ∧
    (civilMonth day ≠ 2 → dayOfMonth day ≤ monthLength 0 (civilMonth day)) := by
  decide +kernel

namespace Date

/-- What the date of a day is made of: an era, a year of it and a day of that year. -/
theorem ofDays_parts (days : Int) : ∃ (era : Int) (year day : Nat), year < 400 ∧ day < 366 ∧
    yearStart year + day < yearStart (year + 1) ∧
    days + 719468 = era * 146097 + yearStart year + day ∧
    ofDays days = ⟨if civilMonth day ≤ 2 then year + era * 400 + 1 else year + era * 400,
      civilMonth day, dayOfMonth day⟩ := by
  have hbound : ((days + 719468) % 146097).toNat < 146097 := by omega
  obtain ⟨hyear, hstart, hend⟩ := yearOfEra_spec hbound
  have hsmall : yearStart (plainDays ((days + 719468) % 146097).toNat / 365) =
      365 * (plainDays ((days + 719468) % 146097).toNat / 365) +
        plainDays ((days + 719468) % 146097).toNat / 365 / 4 -
          plainDays ((days + 719468) % 146097).toNat / 365 / 100 := by
    rw [yearStart, Nat.div_eq_of_lt hyear, Nat.add_zero]
  have hlength := year_length hyear
  refine ⟨(days + 719468) / 146097, plainDays ((days + 719468) % 146097).toNat / 365,
    ((days + 719468) % 146097).toNat - yearStart (plainDays ((days + 719468) % 146097).toNat / 365),
    hyear, by omega, by omega, by omega, ?_⟩
  rw [hsmall]
  rfl

/-- **The days of the date of a day are that day.** -/
theorem toDays_ofDays (days : Int) : (ofDays days).toDays = days := by
  obtain ⟨era, year, day, hyear, hlength, -, hdays, heq⟩ := ofDays_parts days
  obtain ⟨hlow, hhigh, hpos, hinverse, hearly⟩ := month_spec day hlength
  rw [heq, toDays]
  simp only [yearStart] at hdays
  dsimp only
  rw [hinverse]
  split <;> omega

/-- A year of the era that has a leap day at its end precedes a leap year. -/
theorem isLeapYear_of_long {year : Nat} (era : Int) (h : year < 400)
    (hlong : yearStart year + 365 < yearStart (year + 1)) :
    isLeapYear (year + era * 400 + 1) = true := by
  simp only [yearStart] at hlong
  have hfour : (year + era * 400 + 1) % 4 = 0 := by omega
  have hhundred : (year + era * 400 + 1) % 100 ≠ 0 ∨ (year + era * 400 + 1) % 400 = 0 := by omega
  simp only [isLeapYear, hfour, decide_true, Bool.true_and, Bool.or_eq_true, decide_eq_true_eq]
  exact hhundred

theorem monthLength_le (year : Int) (month : Nat) : monthLength year month ≤ 31 := by
  rw [monthLength]
  split
  · split <;> decide
  · split <;> decide

theorem day_le_monthLength {year day : Nat} (era : Int) (hyear : year < 400)
    (hday : yearStart year + day < yearStart (year + 1)) :
    dayOfMonth day ≤ monthLength
      (if civilMonth day ≤ 2 then year + era * 400 + 1 else year + era * 400) (civilMonth day) := by
  have hlength : day < 366 := by
    have hyearLength := year_length hyear
    omega
  obtain ⟨hfebruary, hleap, hother⟩ := dayOfMonth_le day hlength
  by_cases hmonth : civilMonth day = 2
  · rw [hmonth, if_pos (by decide), monthLength, if_pos rfl]
    have hle := hfebruary hmonth
    by_cases hlast : dayOfMonth day = 29
    · rw [isLeapYear_of_long era hyear (hleap hmonth hlast ▸ hday), if_pos rfl]
      exact hle
    · split <;> omega
  · have hle := hother hmonth
    simp only [monthLength, if_neg hmonth] at hle ⊢
    exact hle

/-- **The date of a day is a date of the calendar** as long as its year is. -/
theorem ofNumbers?_ofDays {days : Int} (hfirst : firstYear ≤ (ofDays days).year)
    (hlast : (ofDays days).year ≤ lastYear) :
    ofNumbers? (ofDays days).year (ofDays days).month (ofDays days).day = some (ofDays days) := by
  obtain ⟨era, year, day, hyear, hlength, hday, -, heq⟩ := ofDays_parts days
  obtain ⟨hlow, hhigh, hpos, -, -⟩ := month_spec day hlength
  rw [heq] at hfirst hlast ⊢
  rw [ofNumbers?, if_pos ⟨hfirst, hlast, hlow, hhigh, hpos, day_le_monthLength era hyear hday⟩]

theorem month_ofDays (days : Int) : (ofDays days).month < 100 := by
  obtain ⟨era, year, day, -, hlength, -, -, heq⟩ := ofDays_parts days
  have hmonth := (month_spec day hlength).2.1
  rw [heq]
  dsimp only
  omega

theorem day_ofDays (days : Int) : (ofDays days).day < 100 := by
  obtain ⟨era, year, day, hyear, -, hday, -, heq⟩ := ofDays_parts days
  have hle := day_le_monthLength era hyear hday
  have hmonth := monthLength_le
    (if civilMonth day ≤ 2 then year + era * 400 + 1 else year + era * 400) (civilMonth day)
  rw [heq]
  dsimp only
  omega

/-! ### Years -/

end Date

/-- The days between the first of March of the year 0 and that of another year. -/
def elapsed (year : Int) : Int :=
  365 * year + year / 4 - year / 100 + year / 400

theorem elapsed_mono {a b : Int} (h : a ≤ b) : elapsed a ≤ elapsed b := by
  simp only [elapsed]
  omega

theorem elapsed_succ (year : Int) : elapsed year + 365 ≤ elapsed (year + 1) := by
  simp only [elapsed]
  omega

theorem elapsed_era (era : Int) (year : Nat) (h : year ≤ 400) :
    elapsed (year + era * 400) = era * 146097 + yearStart year := by
  simp only [elapsed, yearStart]
  omega

namespace Date

theorem toDays_newYear (year : Int) :
    (⟨year, 1, 1⟩ : Date).toDays = elapsed (year - 1) + 306 - 719468 := by
  have hmonth : (1 + 9) % 12 = 10 := rfl
  simp only [toDays, elapsed, hmonth]
  omega

/-- **A day lies before a year if it lies before the first of January.** -/
theorem year_ofDays_lt_iff (days year : Int) :
    (ofDays days).year < year ↔ days < (⟨year, 1, 1⟩ : Date).toDays := by
  obtain ⟨era, yearOfEra, day, hyear, hlength, hday, hdays, heq⟩ := ofDays_parts days
  have hearly := (month_spec day hlength).2.2.2.2
  have hstart := elapsed_era era yearOfEra hyear.le
  have hend := elapsed_era era (yearOfEra + 1) hyear
  have hnext := elapsed_succ (year - 1)
  rw [heq, toDays_newYear]
  dsimp only
  rw [Nat.cast_succ, add_right_comm] at hend
  rw [sub_add_cancel] at hnext
  -- on the year counted from March in which the day lies
  generalize (yearOfEra + era * 400 : Int) = march at *
  rcases lt_trichotomy march (year - 1) with hless | rfl | hmore
  · have hle := elapsed_mono (show march + 1 ≤ year - 1 by omega)
    split <;> omega
  · split <;> omega
  · have hle := elapsed_mono (show year ≤ march by omega)
    split <;> omega

end Date

end RecordQuery.Time
