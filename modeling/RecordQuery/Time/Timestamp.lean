import RecordQuery.Number.Text
import RecordQuery.Time.Calendar

/-! # Timestamps

A timestamp counts milliseconds since the start of 1970 in universal time. Its text is an RFC 3339
date-time with milliseconds as long as the calendar has the date, and the bare count otherwise.
-/

namespace RecordQuery

structure Timestamp where
  millis : Int64
  deriving DecidableEq

namespace Timestamp

/-- The nearest count in the range of a word. -/
def clamp (millis : Int) : Timestamp :=
  ⟨Int64.ofInt (max (-0x8000000000000000) (min millis 0x7fffffffffffffff))⟩

/-- A count of seconds; beyond the range of milliseconds the nearest timestamp. -/
def ofSeconds (seconds : Int64) : Timestamp :=
  clamp (seconds.toInt * 1000)

/-- Whole seconds, rounded towards the start of 1970. -/
def seconds (t : Timestamp) : Int :=
  t.millis.toInt.tdiv 1000

/-- The timestamp of a count of microseconds, rounded down to milliseconds. -/
def ofMicros (micros : Int) : Timestamp :=
  clamp (micros / 1000)

def ofDateClock (date : Time.Date) (clock : Time.Clock) : Timestamp :=
  clamp (date.toDays * Time.millisPerDay + clock.toMillis)

def compare (a b : Timestamp) : Ordering :=
  Ord.compare a.millis.toInt b.millis.toInt

/-- Date and milliseconds since midnight, if the calendar has the date. -/
def civil? (t : Timestamp) : Option (Time.Date × Nat) :=
  let date := Time.Date.ofDays (t.millis.toInt / Time.millisPerDay)
  if Time.firstYear ≤ date.year ∧ date.year ≤ Time.lastYear then
    some (date, (t.millis.toInt % Time.millisPerDay).toNat)
  else none

/-- A year of four digits, or a sign and at least four digits outside the years 0 to 9999. -/
def yearChars (year : Int) : List Char :=
  if 0 ≤ year ∧ year ≤ 9999 then Numeral.padded 4 year.natAbs
  else (if year < 0 then '-' else '+') :: Numeral.padded 4 year.natAbs

def chars (t : Timestamp) : List Char :=
  match t.civil? with
  | none => Numeral.ofInt t.millis.toInt
  | some (date, millis) =>
    yearChars date.year ++ '-' :: Numeral.padded 2 date.month ++ '-' :: Numeral.padded 2 date.day
      ++ 'T' :: Numeral.padded 2 (millis / 3600000) ++ ':' :: Numeral.padded 2 (millis / 60000 % 60)
      ++ ':' :: Numeral.padded 2 (millis / 1000 % 60) ++ '.' :: Numeral.padded 3 (millis % 1000)
      ++ ['Z']

def text (t : Timestamp) : String :=
  String.ofList t.chars

end Timestamp

end RecordQuery
