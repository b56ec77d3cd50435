import RecordQuery.Proofs.Base64
import RecordQuery.Proofs.CalendarDates
import RecordQuery.Proofs.Numerals
import RecordQuery.Time.Reader

/-!
# Timestamps as text

A timestamp is read back from its text unless the calendar has its date and the year is outside 0 to
9999: such a text has a sign, which the form with an offset does not allow, and an offset, which the
other forms do not allow. The counts that the calendar has and those of a year are given by the
midnights with which years begin.
-/

namespace RecordQuery

theorem Text.isBlankChar_of_isDigit {c : Char} (h : c.isDigit) : Text.isBlankChar c = false := by
  simp only [Char.isDigit, Bool.and_eq_true, decide_eq_true_eq, ge_iff_le,
    UInt32.le_iff_toNat_le] at h
  change 48 ≤ c.toNat ∧ c.toNat ≤ 57 at h
  simp only [Text.isBlankChar, Text.Ranges.has, Text.Ranges.holds, Text.whiteSpace, List.any_cons,
    List.any_nil, Bool.or_false, Bool.or_eq_false_iff, Bool.and_eq_false_iff,
    decide_eq_false_iff_not]
  omega

/-- A reader that succeeds hands its result on. -/
theorem bind_of_eq_some {α β : Type} {x : Option α} {a : α} (h : x = some a) (f : α → Option β) :
    (x >>= f) = f a := by
  rw [h]
  rfl

namespace Time

open Numeral (padded natural?)

theorem expect?_cons (c : Char) (cs : List Char) : expect? c (c :: cs) = some cs :=
  if_pos rfl

/-! ### Digits -/

theorem digits?_append (least : Nat) {most n : Nat} {ds : List Char} (rest : List Char)
    (hds : ∀ c ∈ ds, c.isDigit) (hleast : least ≤ ds.length) (hmost : ds.length ≤ most)
    (hstop : ds.length = most ∨ ∀ c cs, rest = c :: cs → c.isDigit = false)
    (hvalue : natural? ds = some n) : digits? least most (ds ++ rest) = some (n, rest) := by
  have htaken : ((ds ++ rest).take most).takeWhile Char.isDigit = ds := by
    rw [List.take_append, List.take_of_length_le hmost, List.takeWhile_append_of_pos hds]
    rcases hstop with hfull | hnone
    · simp [hfull]
    · cases rest with
      | nil => simp
      | cons c cs =>
          have hc := hnone c cs rfl
          cases most - ds.length <;> simp [hc]
  rw [digits?, htaken, if_neg (by omega), hvalue, Option.map_some, List.drop_left]

theorem digits?_padded (width : Nat) {n : Nat} (hwidth : 0 < width) (h : n < 10 ^ width)
    (rest : List Char) : digits? width width (padded width n ++ rest) = some (n, rest) := by
  have hlength := Numeral.length_padded hwidth h
  exact digits?_append width rest (fun _ => Numeral.isDigit_of_mem_padded) (by omega) (by omega)
    (Or.inl hlength) (Numeral.natural?_padded width n)

theorem digits?_cons {least most : Nat} {c : Char} (hleast : 0 < least) (hc : c.isDigit = false)
    (cs : List Char) : digits? least most (c :: cs) = none := by
  have htaken : ((c :: cs).take most).takeWhile Char.isDigit = [] := by
    cases most with
    | zero => rfl
    | succ most => rw [List.take_succ_cons, List.takeWhile_cons_of_neg (by simp [hc])]
  rw [digits?, htaken, List.length_nil, if_pos hleast]

theorem trimLeft_padded (width n : Nat) (rest : List Char) :
    Text.trimLeft (padded width n ++ rest) = padded width n ++ rest := by
  have hne : padded width n ≠ [] := by simp [padded, Numeral.ofNat_ne_nil]
  obtain ⟨c, cs, hcs⟩ := List.exists_cons_of_ne_nil hne
  have hdigit : c.isDigit := Numeral.isDigit_of_mem_padded (n := n) (by rw [hcs]; simp)
  have hblank := Text.isBlankChar_of_isDigit hdigit
  rw [hcs, List.cons_append, Text.trimLeft, List.dropWhile_cons_of_neg (by simp [hblank])]

theorem component?_padded {n : Nat} (h : n < 100) (rest : List Char) :
    component? (padded 2 n ++ rest) = some (n, rest) := by
  have hlength : (padded 2 n).length = 2 := Numeral.length_padded (by decide) h
  rw [component?, trimLeft_padded]
  exact digits?_append 1 rest (fun _ => Numeral.isDigit_of_mem_padded) (by omega) (by omega)
    (Or.inl hlength) (Numeral.natural?_padded 2 n)

theorem fraction?_padded {n : Nat} (h : n < 1000) :
    fraction? ('.' :: (padded 3 n ++ ['Z'])) = some (n, ['Z']) := by
  have hlength : (padded 3 n).length = 3 := Numeral.length_padded (by decide) h
  have hdigits : digits? 1 9 (padded 3 n ++ ['Z']) = some (n, ['Z']) := by
    refine digits?_append 1 ['Z'] (fun _ => Numeral.isDigit_of_mem_padded) (by omega) (by omega)
      (Or.inr ?_) (Numeral.natural?_padded 3 n)
    rintro c cs ⟨⟩
    rfl
  rw [fraction?, hdigits]
  simp [hlength]

end Time

namespace Timestamp

open Numeral (padded)
open Time (Date Clock millisPerDay)

def tail (date : Date) (millis : Nat) : List Char :=
  '-' :: (padded 2 date.month ++ '-' :: (padded 2 date.day ++ 'T' ::
    (padded 2 (millis / 3600000) ++ ':' :: (padded 2 (millis / 60000 % 60) ++ ':' ::
      (padded 2 (millis / 1000 % 60) ++ '.' :: (padded 3 (millis % 1000) ++ ['Z']))))))

theorem chars_of_civil? {t : Timestamp} {date : Date} {millis : Nat}
    (h : t.civil? = some (date, millis)) : t.chars = yearChars date.year ++ tail date millis := by
  rw [chars, h]
  simp only [tail, List.append_assoc, List.cons_append]

theorem civil?_eq_some {t : Timestamp} {date : Date} {millis : Nat} :
    t.civil? = some (date, millis) ↔ date = Date.ofDays (t.millis.toInt / millisPerDay) ∧
      millis = (t.millis.toInt % millisPerDay).toNat ∧
      Time.firstYear ≤ date.year ∧ date.year ≤ Time.lastYear := by
  rw [civil?]
  split
  next h =>
    simp only [Option.some.injEq, Prod.mk.injEq]
    constructor
    · rintro ⟨rfl, rfl⟩
      exact ⟨rfl, rfl, h⟩
    · rintro ⟨rfl, rfl, -⟩
      exact ⟨rfl, rfl⟩
  next h =>
    simp only [false_iff, reduceCtorEq]
    rintro ⟨rfl, -, hyear⟩
    exact h hyear

theorem clamp_toInt (n : Int64) : clamp n.toInt = ⟨n⟩ := by
  have hlow := n.le_toInt
  have hhigh := n.toInt_lt
  have hrange : max (-0x8000000000000000) (min n.toInt 0x7fffffffffffffff) = n.toInt := by omega
  rw [clamp, hrange, Int64.ofInt_toInt]

theorem ofWritten?_millis {millis : Nat} (h : millis < 86400000) :
    ∃ clock, Clock.ofWritten? (millis / 3600000) (millis / 60000 % 60) (millis / 1000 % 60)
      (millis % 1000) = some clock ∧ clock.toMillis = millis := by
  refine ⟨⟨millis / 3600000, millis / 60000 % 60, millis / 1000 % 60, millis % 1000⟩, ?_, ?_⟩
  · rw [Clock.ofWritten?, if_neg (by omega), Clock.ofNumbers?, if_pos (by omega)]
  · rw [Clock.toMillis]
    dsimp only
    omega

/-- **A text with a year of four digits is read back.** -/
theorem withOffset?_chars {t : Timestamp} {date : Date} {millis : Nat}
    (h : t.civil? = some (date, millis)) (hlow : 0 ≤ date.year) (hhigh : date.year ≤ 9999) :
    Time.withOffset? t.chars = some t := by
  obtain ⟨hdate, hmillis, hfirst, hlast⟩ := civil?_eq_some.mp h
  have hbound : millis < 86400000 := by
    rw [hmillis, millisPerDay]
    omega
  obtain ⟨clock, hclock, htime⟩ := ofWritten?_millis hbound
  have hvalid : Date.ofNumbers? date.year.natAbs date.month date.day = some date := by
    have hyear : (date.year.natAbs : Int) = date.year := by omega
    rw [hyear, hdate]
    rw [hdate] at hfirst hlast
    exact Date.ofNumbers?_ofDays hfirst hlast
  have hmonth : date.month < 10 ^ 2 := hdate ▸ Date.month_ofDays _
  have hday : date.day < 10 ^ 2 := hdate ▸ Date.day_ofDays _
  have hsum : date.toDays * millisPerDay + clock.toMillis - 0 * 60000 = t.millis.toInt := by
    rw [htime, hdate, Date.toDays_ofDays, hmillis, millisPerDay]
    omega
  rw [chars_of_civil? h, yearChars, if_pos ⟨hlow, hhigh⟩, tail, Time.withOffset?]
  refine (bind_of_eq_some (Time.digits?_padded 4 (by decide) (by omega) _) _).trans ?_
  refine (bind_of_eq_some (Time.expect?_cons _ _) _).trans ?_
  refine (bind_of_eq_some (Time.digits?_padded 2 (by decide) hmonth _) _).trans ?_
  refine (bind_of_eq_some (Time.expect?_cons _ _) _).trans ?_
  refine (bind_of_eq_some (Time.digits?_padded 2 (by decide) hday _) _).trans ?_
  refine (bind_of_eq_some (Time.digits?_padded 2 (by decide) (by omega) _) _).trans ?_
  refine (bind_of_eq_some (Time.expect?_cons _ _) _).trans ?_
  refine (bind_of_eq_some (Time.digits?_padded 2 (by decide) (by omega) _) _).trans ?_
  refine (bind_of_eq_some (Time.expect?_cons _ _) _).trans ?_
  refine (bind_of_eq_some (Time.digits?_padded 2 (by decide) (by omega) _) _).trans ?_
  refine (bind_of_eq_some (Time.fraction?_padded (by omega)) _).trans ?_
  refine (bind_of_eq_some hvalid _).trans ?_
  refine (bind_of_eq_some hclock _).trans ?_
  rw [hsum, clamp_toInt]

/-! ### Years with a sign -/

theorem year?_signed {year : Int} (h : ¬(0 ≤ year ∧ year ≤ 9999)) (rest : List Char) :
    Time.year? (yearChars year ++ '-' :: rest) = some (year, '-' :: rest) := by
  have hdigits : Time.digits? 1 (padded 4 year.natAbs ++ '-' :: rest).length
      (padded 4 year.natAbs ++ '-' :: rest) = some (year.natAbs, '-' :: rest) := by
    have hpos : 0 < (padded 4 year.natAbs).length := by
      rw [List.length_pos_iff]
      simp [padded, Numeral.ofNat_ne_nil]
    refine Time.digits?_append 1 ('-' :: rest) (fun _ => Numeral.isDigit_of_mem_padded) hpos
      (by simp) (Or.inr ?_) (Numeral.natural?_padded 4 year.natAbs)
    rintro c cs ⟨⟩
    rfl
  have hblankMinus : Text.isBlankChar '-' = false := by decide
  have hblankPlus : Text.isBlankChar '+' = false := by decide
  rw [yearChars, if_neg h]
  by_cases hneg : year < 0
  · rw [if_pos hneg, List.cons_append]
    generalize padded 4 year.natAbs ++ '-' :: rest = body at hdigits ⊢
    rw [Time.year?, Text.trimLeft, List.dropWhile_cons_of_neg (by simp [hblankMinus])]
    change (Time.digits? 1 body.length body).map _ = _
    rw [hdigits, Option.map_some]
    simp only [Option.some.injEq, Prod.mk.injEq, and_true]
    omega
  · rw [if_neg hneg, List.cons_append]
    generalize padded 4 year.natAbs ++ '-' :: rest = body at hdigits ⊢
    rw [Time.year?, Text.trimLeft, List.dropWhile_cons_of_neg (by simp [hblankPlus])]
    change (Time.digits? 1 body.length body).map _ = _
    rw [hdigits, Option.map_some]
    simp only [Option.some.injEq, Prod.mk.injEq, and_true]
    omega

theorem date?_signed {date : Date} (h : ¬(0 ≤ date.year ∧ date.year ≤ 9999))
    (hvalid : Date.ofNumbers? date.year date.month date.day = some date)
    (hmonth : date.month < 100) (hday : date.day < 100) (rest : List Char) :
    Time.date? (yearChars date.year ++ '-' :: (padded 2 date.month ++ '-' ::
      (padded 2 date.day ++ rest))) = some (date, rest) := by
  rw [Time.date?, year?_signed h]
  simp only [Option.bind_eq_bind, Option.bind_some, Time.expect?, if_true,
    Time.component?_padded hmonth, Time.component?_padded hday, hvalid]

/-- **A text with a signed year is not read back.** -/
theorem readers_signed {t : Timestamp} {date : Date} {millis : Nat}
    (h : t.civil? = some (date, millis)) (hyear : ¬(0 ≤ date.year ∧ date.year ≤ 9999)) :
    Time.withOffset? t.chars = none ∧ Time.withoutOffset? t.chars = none ∧
      Time.dateOnly? t.chars = none ∧ Numeral.int64? t.chars = none := by
  obtain ⟨hdate, hmillis, hfirst, hlast⟩ := civil?_eq_some.mp h
  have hbound : millis < 86400000 := by
    rw [hmillis, millisPerDay]
    omega
  have hvalid : Date.ofNumbers? date.year date.month date.day = some date := by
    rw [hdate] at hfirst hlast ⊢
    exact Date.ofNumbers?_ofDays hfirst hlast
  have hmonth : date.month < 100 := hdate ▸ Date.month_ofDays _
  have hday : date.day < 100 := hdate ▸ Date.day_ofDays _
  obtain ⟨clock, hclock, -⟩ := ofWritten?_millis hbound
  have hread := fun rest => date?_signed hyear hvalid hmonth hday rest
  rw [chars_of_civil? h]
  refine ⟨?_, ?_, ?_, ?_⟩
  · have hsign : (if date.year < 0 then '-' else '+').isDigit = false := by
      by_cases hneg : date.year < 0
      · rw [if_pos hneg]
        rfl
      · rw [if_neg hneg]
        rfl
    rw [yearChars, if_neg hyear, List.cons_append, Time.withOffset?,
      Time.digits?_cons (by decide) hsign]
    rfl
  · rw [tail, Time.withoutOffset?, hread]
    simp only [Option.bind_eq_bind, Option.bind_some, Time.clock?,
      Time.component?_padded (n := millis / 3600000) (by omega),
      Time.component?_padded (n := millis / 60000 % 60) (by omega),
      Time.component?_padded (n := millis / 1000 % 60) (by omega), Time.expect?, if_true,
      Time.fraction?_padded (n := millis % 1000) (by omega), hclock]
    rfl
  · rw [tail, Time.dateOnly?, hread]
    rfl
  · have hmem : '-' ∈ padded 4 date.year.natAbs ++ tail date millis := by simp [tail]
    have hnone := Numeral.int64?_eq_none (Numeral.natural?_eq_none hmem rfl)
    rw [yearChars, if_neg hyear]
    by_cases hneg : date.year < 0
    · rw [if_pos hneg]
      exact hnone.1
    · rw [if_neg hneg]
      exact hnone.2

/-! ### Counts -/

/-- A count lies before a year if it lies before the midnight that the year begins with. -/
theorem year_lt_iff (t : Timestamp) (year : Int) :
    (Date.ofDays (t.millis.toInt / millisPerDay)).year < year ↔
      t.millis.toInt < (⟨year, 1, 1⟩ : Date).toDays * millisPerDay := by
  rw [Date.year_ofDays_lt_iff, Int.ediv_lt_iff_lt_mul (by decide)]

/-- The calendar lacks the counts before its first year and those after its last one. -/
theorem civil?_eq_none_iff {t : Timestamp} :
    t.civil? = none ↔ t.millis.toInt < -8334601228800000 ∨ 8210266876800000 ≤ t.millis.toInt := by
  have hfirst := t.year_lt_iff Time.firstYear
  have hlast := t.year_lt_iff (Time.lastYear + 1)
  have hstart : (⟨Time.firstYear, 1, 1⟩ : Date).toDays * millisPerDay = -8334601228800000 := by
    decide
  have hend : (⟨Time.lastYear + 1, 1, 1⟩ : Date).toDays * millisPerDay = 8210266876800000 := by
    decide
  rw [hstart] at hfirst
  rw [hend] at hlast
  rw [civil?]
  split <;> simp only [reduceCtorEq, false_iff, true_iff] <;> omega

/-- Outside the calendar the count is far from the start of 1970. -/
theorem count_of_civil?_eq_none {t : Timestamp} (h : t.civil? = none) :
    secondsLimit.natAbs ≤ t.millis.toInt.natAbs := by
  rw [civil?_eq_none_iff] at h
  rw [secondsLimit]
  omega

/-- Digits are not followed by a hyphen when they run on. -/
theorem expect?_digits {ds : List Char} (h : ∀ c ∈ ds, c.isDigit) :
    Time.expect? '-' ds = none := by
  cases ds with
  | nil => rfl
  | cons c cs =>
      have hne : c ≠ '-' := Numeral.ne_of_isDigit (h c (by simp)) rfl
      rw [Time.expect?, if_neg hne]

theorem isDigit_of_digits? {least most n : Nat} {ds rest : List Char} (hds : ∀ c ∈ ds, c.isDigit)
    (h : Time.digits? least most ds = some (n, rest)) : ∀ c ∈ rest, c.isDigit := by
  rw [Time.digits?] at h
  split at h
  · cases h
  · obtain ⟨value, -, hrest⟩ := Option.map_eq_some_iff.mp h
    cases hrest
    exact fun c hc => hds c (List.mem_of_mem_drop hc)

theorem trimLeft_digits {ds : List Char} (h : ∀ c ∈ ds, c.isDigit) : Text.trimLeft ds = ds :=
  Text.trimLeft_of_notBlank fun c hc => Text.isBlankChar_of_isDigit (h c hc)

/-- Behind the year of a bare count there are digits only. -/
theorem isDigit_of_year?_ofInt {n year : Int} {rest : List Char}
    (h : Time.year? (Numeral.ofInt n) = some (year, rest)) : ∀ c ∈ rest, c.isDigit := by
  have hds : ∀ c ∈ Numeral.ofNat n.natAbs, c.isDigit := fun _ => Numeral.isDigit_of_mem_ofNat
  have hblankMinus : Text.isBlankChar '-' = false := by decide
  rw [Numeral.ofInt] at h
  by_cases hneg : n < 0
  · rw [if_pos hneg, Time.year?, Text.trimLeft,
      List.dropWhile_cons_of_neg (by simp [hblankMinus])] at h
    obtain ⟨⟨value, tail⟩, hread, hrest⟩ := Option.map_eq_some_iff.mp h
    cases hrest
    exact isDigit_of_digits? hds hread
  · rw [if_neg hneg, Time.year?, trimLeft_digits hds] at h
    split at h
    next heq => exact absurd (hds '-' (by simp [heq])) (by decide)
    next heq => exact absurd (hds '+' (by simp [heq])) (by decide)
    next =>
      obtain ⟨⟨value, tail⟩, hread, hrest⟩ := Option.map_eq_some_iff.mp h
      cases hrest
      exact isDigit_of_digits? hds hread

/-- **A bare count is no date.** -/
theorem readers_count (n : Int) :
    Time.withOffset? (Numeral.ofInt n) = none ∧ Time.date? (Numeral.ofInt n) = none := by
  constructor
  · rw [Numeral.ofInt]
    by_cases hneg : n < 0
    · rw [if_pos hneg, Time.withOffset?, Time.digits?_cons (by decide) rfl]
      rfl
    · rw [if_neg hneg, Time.withOffset?]
      cases hyear : Time.digits? 4 4 (Numeral.ofNat n.natAbs) with
      | none => rfl
      | some read =>
          have hrest := isDigit_of_digits? (fun _ => Numeral.isDigit_of_mem_ofNat) hyear
          change (Time.expect? '-' read.2 >>= _) = none
          rw [expect?_digits hrest]
          rfl
  · rw [Time.date?]
    cases hyear : Time.year? (Numeral.ofInt n) with
    | none => rfl
    | some read =>
        change (Time.expect? '-' read.2 >>= _) = none
        rw [expect?_digits (isDigit_of_year?_ofInt hyear)]
        rfl

/-! ### Reading back -/

/-- The calendar lacks the date, or the year has four digits. -/
def Readable (t : Timestamp) : Prop :=
  ∀ date ∈ t.civil?.map Prod.fst, 0 ≤ date.year ∧ date.year ≤ 9999

instance (t : Timestamp) : Decidable t.Readable := by
  unfold Readable
  infer_instance

theorem notBlank_of_mem_padded {width n : Nat} :
    ∀ c ∈ padded width n, Text.isBlankChar c = false :=
  fun _ h => Text.isBlankChar_of_isDigit (Numeral.isDigit_of_mem_padded h)

theorem notBlank_of_mem_ofInt {n : Int} : ∀ c ∈ Numeral.ofInt n, Text.isBlankChar c = false := by
  have hdigits : ∀ c ∈ Numeral.ofNat n.natAbs, Text.isBlankChar c = false :=
    fun _ h => Text.isBlankChar_of_isDigit (Numeral.isDigit_of_mem_ofNat h)
  rw [Numeral.ofInt]
  split
  · exact List.forall_mem_cons.mpr ⟨by decide, hdigits⟩
  · exact hdigits

theorem notBlank_of_mem_yearChars {year : Int} :
    ∀ c ∈ yearChars year, Text.isBlankChar c = false := by
  rw [yearChars]
  split
  · exact notBlank_of_mem_padded
  · exact List.forall_mem_cons.mpr ⟨by split <;> decide, notBlank_of_mem_padded⟩

theorem notBlank_of_mem_chars {t : Timestamp} : ∀ c ∈ t.chars, Text.isBlankChar c = false := by
  cases hcivil : t.civil? with
  | none =>
      rw [chars, hcivil]
      exact notBlank_of_mem_ofInt
  | some civil =>
      rw [chars_of_civil? hcivil, List.forall_mem_append]
      refine ⟨notBlank_of_mem_yearChars, ?_⟩
      simp only [tail, List.forall_mem_cons, List.forall_mem_append]
      exact ⟨by decide, notBlank_of_mem_padded, by decide, notBlank_of_mem_padded, by decide,
        notBlank_of_mem_padded, by decide, notBlank_of_mem_padded, by decide,
        notBlank_of_mem_padded, by decide, notBlank_of_mem_padded, by decide, by simp⟩

/-- **What reading makes of the text of a timestamp.** -/
theorem ofChars?_chars (t : Timestamp) :
    ofChars? t.chars = if t.Readable then some t else none := by
  rw [ofChars?, Text.trimChars_of_notBlank notBlank_of_mem_chars]
  cases hcivil : t.civil? with
  | none =>
      have hreadable : t.Readable := by simp [Readable, hcivil]
      have hcount := count_of_civil?_eq_none hcivil
      have hchars : t.chars = Numeral.ofInt t.millis.toInt := by rw [chars, hcivil]
      obtain ⟨hoffset, hdate⟩ := readers_count t.millis.toInt
      rw [if_pos hreadable, hchars, hoffset, Time.withoutOffset?, Time.dateOnly?, hdate,
        Numeral.int64?_ofInt]
      change some (ofEpoch t.millis) = some t
      rw [ofEpoch, if_neg (by omega)]
  | some civil =>
      obtain ⟨date, millis⟩ := civil
      by_cases hyear : 0 ≤ date.year ∧ date.year ≤ 9999
      · have hreadable : t.Readable := by simpa [Readable, hcivil] using hyear
        rw [if_pos hreadable, withOffset?_chars hcivil hyear.1 hyear.2, Option.some_or]
      · have hunreadable : ¬t.Readable := by simpa [Readable, hcivil] using hyear
        obtain ⟨hoffset, hwithout, hdate, hcount⟩ := readers_signed hcivil hyear
        rw [if_neg hunreadable, hoffset, hwithout, hdate, hcount]
        rfl

/-! ### Which counts are read back -/

theorem readable_iff {t : Timestamp} :
    t.Readable ↔ t.millis.toInt < -8334601228800000 ∨
      (-62167219200000 ≤ t.millis.toInt ∧ t.millis.toInt < 253402300800000) ∨
      8210266876800000 ≤ t.millis.toInt := by
  cases hcivil : t.civil? with
  | none =>
      have hreadable : t.Readable := by simp [Readable, hcivil]
      rw [civil?_eq_none_iff] at hcivil
      exact iff_of_true hreadable (by omega)
  | some civil =>
      obtain ⟨date, millis⟩ := civil
      have hyears : t.Readable ↔ 0 ≤ date.year ∧ date.year ≤ 9999 := by
        simp [Readable, hcivil]
      have hinside : ¬(t.millis.toInt < -8334601228800000 ∨ 8210266876800000 ≤ t.millis.toInt) := by
        rw [← civil?_eq_none_iff, hcivil]
        simp
      have hlow := t.year_lt_iff 0
      have hhigh := t.year_lt_iff 10000
      have hstart : (⟨0, 1, 1⟩ : Date).toDays * millisPerDay = -62167219200000 := by decide
      have hend : (⟨10000, 1, 1⟩ : Date).toDays * millisPerDay = 253402300800000 := by decide
      rw [hstart, ← (civil?_eq_some.mp hcivil).1] at hlow
      rw [hend, ← (civil?_eq_some.mp hcivil).1] at hhigh
      rw [hyears]
      omega

/-- **Which timestamps survive their text.** A count of the years 0 to 9999 is read back from its
date, and one outside the calendar from its bare milliseconds. Every other count is written with a
signed year, which is not read at all. -/
theorem survives_text (t : Timestamp) :
    ofChars? t.text.toList =
      if t.millis.toInt < -8334601228800000 ∨
          (-62167219200000 ≤ t.millis.toInt ∧ t.millis.toInt < 253402300800000) ∨
          8210266876800000 ≤ t.millis.toInt then
        some t
      else none := by
  rw [text, String.toList_ofList, ofChars?_chars]
  exact if_congr readable_iff rfl rfl

/-- The first millisecond after the year 9999 and the last one before the year 0 are not read. -/
theorem signed_years_lost :
    (mk 253402300800000).text = "+10000-01-01T00:00:00.000Z" ∧
      ofChars? (mk 253402300800000).text.toList = none ∧
      (mk (-62167219200001)).text = "-0001-12-31T23:59:59.999Z" ∧
      ofChars? (mk (-62167219200001)).text.toList = none := by
  decide +kernel

end Timestamp

end RecordQuery
