/-! # The proleptic Gregorian calendar

Dates and the number of days since 1970-01-01 determine each other. Years run from -262143 to
262142, and there is a year 0.
-/

namespace RecordQuery.Time

structure Date where
  year : Int
  month : Nat
  day : Nat
  deriving DecidableEq

def isLeapYear (year : Int) : Bool :=
  year % 4 = 0 && (year % 100 ≠ 0 || year % 400 = 0)

def monthLength (year : Int) (month : Nat) : Nat :=
  if month = 2 then (if isLeapYear year then 29 else 28)
  else if month = 4 ∨ month = 6 ∨ month = 9 ∨ month = 11 then 30
  else 31

def firstYear : Int := -262143

def lastYear : Int := 262142

namespace Date

/-- The date with the given numbers, if the calendar has it. -/
def ofNumbers? (year : Int) (month day : Nat) : Option Date :=
  if firstYear ≤ year ∧ year ≤ lastYear ∧ 1 ≤ month ∧ month ≤ 12 ∧ 1 ≤ day ∧
      day ≤ monthLength year month then
    some ⟨year, month, day⟩
  else none

/-- Days since 1970-01-01. Years are counted from March, so that a leap day ends its year. -/
def toDays (d : Date) : Int :=
  let year := if d.month ≤ 2 then d.year - 1 else d.year
  let era := year / 400
  let yearOfEra := year % 400
  let month := (d.month + 9) % 12
  let dayOfYear : Int := ((153 * month + 2) / 5 + d.day - 1 : Nat)
  let dayOfEra := yearOfEra * 365 + yearOfEra / 4 - yearOfEra / 100 + dayOfYear
  era * 146097 + dayOfEra - 719468

/-- The date that is `days` days after 1970-01-01. -/
def ofDays (days : Int) : Date :=
  let shifted := days + 719468
  let era := shifted / 146097
  let dayOfEra := (shifted % 146097).toNat
  let yearOfEra := (dayOfEra - dayOfEra / 1460 + dayOfEra / 36524 - dayOfEra / 146096) / 365
  let dayOfYear := dayOfEra - (365 * yearOfEra + yearOfEra / 4 - yearOfEra / 100)
  let month := (5 * dayOfYear + 2) / 153
  let day := dayOfYear - (153 * month + 2) / 5 + 1
  let civil := if month < 10 then month + 3 else month - 9
  let year : Int := yearOfEra + era * 400
  ⟨if civil ≤ 2 then year + 1 else year, civil, day⟩

example : (ofDays 0) = ⟨1970, 1, 1⟩ := by decide
example : (⟨2024, 2, 29⟩ : Date).toDays = 19782 := by decide
example : ofDays 19782 = ⟨2024, 2, 29⟩ := by decide
example : ofDays (-719528) = ⟨0, 1, 1⟩ := by decide

end Date

def millisPerDay : Int := 86400000

/-- A time of day. The milliseconds of the last second of a minute may run on to 1999, through a
leap second. -/
structure Clock where
  hour : Nat
  minute : Nat
  second : Nat
  milli : Nat

namespace Clock

/-- The time of day with the given numbers, if there is one. -/
def ofNumbers? (hour minute second milli : Nat) : Option Clock :=
  if hour ≤ 23 ∧ minute ≤ 59 ∧ second ≤ 59 ∧ (milli < 1000 ∨ second = 59 ∧ milli < 2000) then
    some ⟨hour, minute, second, milli⟩
  else none

/-- The time of day as it is written, with a leap second as the second 60. -/
def ofWritten? (hour minute second milli : Nat) : Option Clock :=
  if second = 60 then ofNumbers? hour minute 59 (1000 + milli)
  else ofNumbers? hour minute second milli

def toMillis (c : Clock) : Int :=
  (((c.hour * 60 + c.minute) * 60 + c.second) * 1000 + c.milli : Nat)

end Clock

end RecordQuery.Time
