import RecordQuery.Text.Blank
import RecordQuery.Time.Timestamp

/-! # Reading timestamps

A timestamp text is an RFC 3339 date-time with its offset, a date-time without an offset or a date
alone, both in universal time, or a whole number of seconds or milliseconds.
-/

namespace RecordQuery.Time

/-- The number spelled by up to `most` leading digits, of which there are at least `least`. -/
def digits? (least most : Nat) (cs : List Char) : Option (Nat × List Char) :=
  let taken := (cs.take most).takeWhile Char.isDigit
  if taken.length < least then none
  else (Numeral.natural? taken).map fun n => (n, cs.drop taken.length)

def expect? (c : Char) : List Char → Option (List Char)
  | d :: cs => if d = c then some cs else none
  | [] => none

/-- Milliseconds after a decimal point. Nine digits count at most and the others are skipped. -/
def fraction? : List Char → Option (Nat × List Char)
  | '.' :: cs => do
    let (n, rest) ← digits? 1 9 cs
    let used := cs.length - rest.length
    some (n * Nat.pow 10 (9 - used) / 1000000, rest.dropWhile Char.isDigit)
  | cs => some (0, cs)

/-! ### With an offset -/

/-- Hours and minutes of an offset, in minutes. -/
def offsetMinutes? (cs : List Char) : Option (Nat × List Char) := do
  let (hours, cs) ← digits? 2 2 cs
  let cs ← expect? ':' cs
  let (minutes, cs) ← digits? 2 2 cs
  if minutes ≤ 59 ∧ hours ≤ 23 then some (hours * 60 + minutes, cs) else none

/-- The offset from universal time in minutes. -/
def offset? : List Char → Option (Int × List Char)
  | 'Z' :: cs => some (0, cs)
  | 'z' :: cs => some (0, cs)
  | '+' :: cs => (offsetMinutes? cs).map fun (n, rest) => ((n : Int), rest)
  | '-' :: cs => (offsetMinutes? cs).map fun (n, rest) => (-(n : Int), rest)
  | '−' :: cs => (offsetMinutes? cs).map fun (n, rest) => (-(n : Int), rest)
  | _ => none

/-- A date-time of fixed width with an offset. -/
def withOffset? (cs : List Char) : Option Timestamp := do
  let (year, cs) ← digits? 4 4 cs
  let cs ← expect? '-' cs
  let (month, cs) ← digits? 2 2 cs
  let cs ← expect? '-' cs
  let (day, cs) ← digits? 2 2 cs
  let cs ← match cs with
    | 'T' :: cs => some cs
    | 't' :: cs => some cs
    | ' ' :: cs => some cs
    | _ => none
  let (hour, cs) ← digits? 2 2 cs
  let cs ← expect? ':' cs
  let (minute, cs) ← digits? 2 2 cs
  let cs ← expect? ':' cs
  let (second, cs) ← digits? 2 2 cs
  let (milli, cs) ← fraction? cs
  let (offset, cs) ← offset? cs
  if cs.isEmpty then do
    let date ← Date.ofNumbers? year month day
    let clock ← Clock.ofWritten? hour minute second milli
    some (.clamp (date.toDays * millisPerDay + clock.toMillis - offset * 60000))
  else none

/-! ### Without an offset -/

/-- A number of at most two digits after blanks. -/
def component? (cs : List Char) : Option (Nat × List Char) :=
  digits? 1 2 (Text.trimLeft cs)

/-- A year: up to four digits, or a sign and any number of digits. -/
def year? (cs : List Char) : Option (Int × List Char) :=
  match Text.trimLeft cs with
  | '-' :: cs => (digits? 1 cs.length cs).map fun (n, rest) => (-(n : Int), rest)
  | '+' :: cs => (digits? 1 cs.length cs).map fun (n, rest) => ((n : Int), rest)
  | cs => (digits? 1 4 cs).map fun (n, rest) => ((n : Int), rest)

def date? (cs : List Char) : Option (Date × List Char) := do
  let (year, cs) ← year? cs
  let cs ← expect? '-' cs
  let (month, cs) ← component? cs
  let cs ← expect? '-' cs
  let (day, cs) ← component? cs
  let date ← Date.ofNumbers? year month day
  some (date, cs)

def clock? (cs : List Char) : Option (Clock × List Char) := do
  let (hour, cs) ← component? cs
  let cs ← expect? ':' cs
  let (minute, cs) ← component? cs
  let cs ← expect? ':' cs
  let (second, cs) ← component? cs
  let (milli, cs) ← fraction? cs
  let clock ← Clock.ofWritten? hour minute second milli
  some (clock, cs)

/-- A date and a time of day with the letter T or with blanks, if any, between them. -/
def withoutOffset? (cs : List Char) : Option Timestamp := do
  let (date, cs) ← date? cs
  let cs := match cs with
    | 'T' :: cs => cs
    | cs => cs
  let (clock, cs) ← clock? cs
  if cs.isEmpty then some (.ofDateClock date clock) else none

/-- A date alone, which stands for its midnight. -/
def dateOnly? (cs : List Char) : Option Timestamp := do
  let (date, cs) ← date? cs
  if cs.isEmpty then some (.ofDateClock date ⟨0, 0, 0, 0⟩) else none

end RecordQuery.Time

namespace RecordQuery.Timestamp

/-- Counts of a smaller magnitude are seconds, the others milliseconds. -/
def secondsLimit : Int := 100000000000

def ofEpoch (n : Int64) : Timestamp :=
  if n.toInt.natAbs < secondsLimit.natAbs then ofSeconds n else ⟨n⟩

/-- The timestamp that a text spells, blanks around it aside. -/
def ofChars? (cs : List Char) : Option Timestamp :=
  let cs := Text.trimChars cs
  (Time.withOffset? cs).or <| (Time.withoutOffset? cs).or <| (Time.dateOnly? cs).or <|
    (Numeral.int64? cs).map ofEpoch

end RecordQuery.Timestamp
