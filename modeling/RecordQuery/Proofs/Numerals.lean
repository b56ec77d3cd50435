import Mathlib
import RecordQuery.Json.Reader

/-!
# Whole numbers as text

Reading decimal digits undoes writing them, with or without a sign and with leading zeros up to a
width. A whole number at the front of a text is read back in the same way.
-/

namespace RecordQuery

namespace Numeral

theorem digitsFrom_eq {cs : List Char} (h : ∀ c ∈ cs, c.isDigit) (value : Nat) :
    digitsFrom value cs = some (Nat.ofDigitChars 10 cs value) := by
  induction cs generalizing value with
  | nil => rfl
  | cons c cs ih =>
      rw [digitsFrom, if_pos (h c (by simp)), ih fun d hd => h d (by simp [hd]),
        Nat.ofDigitChars_cons, Nat.mul_comm]
      rfl

theorem digitsFrom_eq_none {cs : List Char} {c : Char} (hmem : c ∈ cs) (hc : c.isDigit = false)
    (value : Nat) : digitsFrom value cs = none := by
  induction cs generalizing value with
  | nil => cases hmem
  | cons d cs ih =>
      rw [digitsFrom]
      split
      next hd =>
        rcases List.mem_cons.mp hmem with rfl | hmem
        · rw [hd] at hc
          cases hc
        · exact ih hmem _
      next => rfl

theorem natural?_eq_none {cs : List Char} {c : Char} (hmem : c ∈ cs) (hc : c.isDigit = false) :
    natural? cs = none := by
  rw [natural?, digitsFrom_eq_none hmem hc, ite_self]

theorem isDigit_of_mem_ofNat {n : Nat} {c : Char} (h : c ∈ ofNat n) : c.isDigit :=
  Nat.isDigit_of_mem_toDigits (by decide) (by decide) h

theorem ofNat_ne_nil (n : Nat) : ofNat n ≠ [] :=
  Nat.toDigits_ne_nil

theorem natural?_ofNat (n : Nat) : natural? (ofNat n) = some n := by
  rw [natural?, if_neg (by simp [ofNat_ne_nil]), digitsFrom_eq fun _ => isDigit_of_mem_ofNat, ofNat,
    Nat.ofDigitChars_toDigits (by decide) (by decide)]

/-- A numeral with more than one digit does not begin with zero. -/
theorem head_ofNat (n : Nat) : ofNat n = ['0'] ∨ ∃ c cs, ofNat n = c :: cs ∧ c ≠ '0' := by
  induction n using Nat.strongRecOn with
  | ind n ih =>
      by_cases hsmall : n < 10
      · rw [ofNat, Nat.toDigits_of_lt_base hsmall]
        by_cases hzero : n = 0
        · subst hzero
          exact Or.inl rfl
        · exact Or.inr ⟨_, _, rfl, by simpa using hzero⟩
      · have hstep : ofNat n = ofNat (n / 10) ++ [Nat.digitChar (n % 10)] :=
          Nat.toDigits_of_base_le (by decide) (by omega)
        rcases ih (n / 10) (by omega) with hzero | ⟨c, cs, hhead, hc⟩
        · have hread := natural?_ofNat (n / 10)
          rw [hzero] at hread
          have hquotient : 0 = n / 10 := Option.some.inj hread
          omega
        · exact Or.inr ⟨c, cs ++ [Nat.digitChar (n % 10)], by rw [hstep, hhead]; rfl, hc⟩

/-! ### Widths -/

theorem isDigit_of_mem_padded {width n : Nat} {c : Char} (h : c ∈ padded width n) : c.isDigit := by
  rcases List.mem_append.mp h with h | h
  · rw [List.eq_of_mem_replicate h]
    rfl
  · exact isDigit_of_mem_ofNat h

theorem length_padded {width n : Nat} (hwidth : 0 < width) (h : n < 10 ^ width) :
    (padded width n).length = width := by
  have hlength : (ofNat n).length ≤ width :=
    (Nat.length_toDigits_le_iff (by decide) hwidth).mpr h
  rw [padded, List.length_append, List.length_replicate]
  omega

theorem natural?_padded (width n : Nat) : natural? (padded width n) = some n := by
  rw [natural?, if_neg (by simp [padded, ofNat_ne_nil]),
    digitsFrom_eq fun _ => isDigit_of_mem_padded, padded, Nat.ofDigitChars_append,
    Nat.ofDigitChars_replicate_zero, Nat.mul_zero, ofNat,
    Nat.ofDigitChars_toDigits (by decide) (by decide)]

/-! ### Signs -/

theorem ne_of_isDigit {c d : Char} (hc : c.isDigit) (hd : d.isDigit = false) : c ≠ d := by
  rintro rfl
  rw [hc] at hd
  cases hd

theorem signed?_ofInt (n : Int) : signed? (ofInt n) = some n := by
  rw [ofInt]
  split
  next hneg =>
    rw [signed?, natural?_ofNat]
    change some (-(n.natAbs : Int)) = some n
    congr 1
    omega
  next hpos =>
    obtain ⟨c, cs, hcs⟩ := List.exists_cons_of_ne_nil (ofNat_ne_nil n.natAbs)
    have hdigit : c.isDigit := isDigit_of_mem_ofNat (n := n.natAbs) (by simp [hcs])
    have hminus : c ≠ '-' := ne_of_isDigit hdigit rfl
    have hplus : c ≠ '+' := ne_of_isDigit hdigit rfl
    have hnatural := natural?_ofNat n.natAbs
    rw [hcs] at hnatural
    rw [hcs, signed?, unsigned?, hnatural]
    · change some (n.natAbs : Int) = some n
      congr 1
      omega
    · intro rest hrest
      exact hplus (List.cons.inj hrest).1
    · intro rest hrest
      exact hminus (List.cons.inj hrest).1

theorem signed?_eq_none {cs : List Char} (h : natural? cs = none) :
    signed? ('-' :: cs) = none ∧ signed? ('+' :: cs) = none := by
  simp [signed?, unsigned?, h]

theorem int64?_eq_none {cs : List Char} (h : natural? cs = none) :
    int64? ('-' :: cs) = none ∧ int64? ('+' :: cs) = none := by
  simp [int64?, signedWithin?, signed?_eq_none h]

theorem int64?_ofInt (n : Int64) : int64? (ofInt n.toInt) = some n := by
  have hlow := n.le_toInt
  have hhigh := n.toInt_lt
  rw [int64?, signedWithin?, signed?_ofInt, Option.filter_some, if_pos, Option.map_some,
    Int64.ofInt_toInt]
  rw [Bool.and_eq_true, decide_eq_true_eq, decide_eq_true_eq]
  exact ⟨hlow, hhigh⟩

/-- Digits are read up to the first character that is none. -/
theorem span_digits {ds rest : List Char} (hds : ∀ c ∈ ds, c.isDigit)
    (hrest : ∀ c ∈ rest.head?, c.isDigit = false) :
    (ds ++ rest).span Char.isDigit = (ds, rest) := by
  rw [List.span_eq_takeWhile_dropWhile, List.takeWhile_append_of_pos hds,
    List.dropWhile_append_of_pos hds]
  cases rest with
  | nil => simp
  | cons c cs => simp [hrest c rfl]

end Numeral

namespace Json

theorem le_ofDigitChars (cs : List Char) (value : Nat) : value ≤ Nat.ofDigitChars 10 cs value := by
  rw [Nat.ofDigitChars_eq_ofDigitChars_zero]
  have hpos : 0 < 10 ^ cs.length := Nat.pow_pos (by decide)
  exact Nat.le_trans (Nat.le_mul_of_pos_left value hpos) (Nat.le_add_right _ _)

theorem takeDigits_eq {cs : List Char} {value : Nat}
    (h : Nat.ofDigitChars 10 cs value < 0x10000000000000000) :
    takeDigits value cs = (Nat.ofDigitChars 10 cs value, []) := by
  induction cs generalizing value with
  | nil => rfl
  | cons c cs ih =>
      have hnext : Nat.ofDigitChars 10 (c :: cs) value =
          Nat.ofDigitChars 10 cs (value * 10 + (c.toNat - 48)) := by
        rw [Nat.ofDigitChars_cons, Nat.mul_comm]
        rfl
      have hle := le_ofDigitChars cs (value * 10 + (c.toNat - 48))
      rw [hnext] at h ⊢
      rw [takeDigits, if_pos (by omega), ih h]

theorem takeDigits_ofNat {n : Nat} (h : n < 0x10000000000000000) :
    takeDigits 0 (Numeral.ofNat n) = (n, []) := by
  have hvalue : Nat.ofDigitChars 10 (Numeral.ofNat n) 0 = n :=
    Nat.ofDigitChars_toDigits (by decide) (by decide)
  rw [takeDigits_eq (by omega), hvalue]

/-- What may follow a whole number: no digit, no point and no exponent. -/
def EndsNumber (rest : List Char) : Prop :=
  ∀ c cs, rest = c :: cs → c.isDigit = false ∧ c ≠ '.' ∧ c ≠ 'e' ∧ c ≠ 'E'

theorem readExponent_of_endsNumber {rest : List Char} (h : EndsNumber rest) :
    readExponent rest = some (none, rest) := by
  cases rest with
  | nil => rfl
  | cons c cs =>
      obtain ⟨-, -, he, hE⟩ := h c cs rfl
      simp [readExponent, he, hE]

theorem number?_whole {n : Int} (range : -0x8000000000000000 ≤ n ∧ n < 0x10000000000000000) :
    number? (decide (n < 0)) (Numeral.ofNat n.natAbs) none none = some (.whole n range) := by
  rw [number?, takeDigits_ofNat (by omega)]
  by_cases hneg : n < 0
  · have hvalue : -(n.natAbs : Int) = n := by omega
    have hexact : ¬(n.natAbs = 0 ∨ 0x8000000000000000 < n.natAbs) := by omega
    rw [decide_eq_true hneg]
    dsimp only
    rw [List.isEmpty_nil, if_pos rfl, if_pos rfl, if_neg hexact, Numeric.ofInt?, hvalue,
      dif_pos range]
  · have hvalue : (n.natAbs : Int) = n := by omega
    rw [decide_eq_false hneg]
    dsimp only
    rw [List.isEmpty_nil, if_pos rfl, if_neg Bool.false_ne_true, Numeric.ofInt?, hvalue,
      dif_pos range]

theorem readNumber_digits (negative : Bool) {m : Nat} {rest : List Char}
    (hrest : EndsNumber rest) :
    readNumber ((if negative then ['-'] else []) ++ (Numeral.ofNat m ++ rest)) =
      some (.number (number? negative (Numeral.ofNat m) none none), rest) := by
  have hexponent := readExponent_of_endsNumber hrest
  have hspan := Numeral.span_digits (fun c hc => Numeral.isDigit_of_mem_ofNat (n := m) hc)
    fun c hc => (hrest c _ (List.eq_cons_of_mem_head? hc)).1
  have hpoint : ∀ cs, rest = '.' :: cs → False := fun cs h => (hrest '.' cs h).2.1 rfl
  rcases Numeral.head_ofNat m with hzero | ⟨c, ds, hhead, hc⟩
  · rw [hzero]
    cases negative <;> simp [readNumber, hexponent]
  · have hdigit : c.isDigit := Numeral.isDigit_of_mem_ofNat (n := m) (by simp [hhead])
    have hminus : c ≠ '-' := Numeral.ne_of_isDigit hdigit rfl
    rw [hhead] at hspan ⊢
    rw [List.span_eq_takeWhile_dropWhile, List.cons_append, List.takeWhile_cons_of_pos hdigit,
      List.dropWhile_cons_of_pos hdigit, Prod.mk.injEq, List.cons_inj_right] at hspan
    cases negative <;>
      simp [readNumber, List.span_eq_takeWhile_dropWhile, hdigit, hc, hminus, hspan.1, hspan.2,
        hexponent]

/-- **Reading a whole number undoes writing it.** -/
theorem readNumber_chars {n : Int} (range : -0x8000000000000000 ≤ n ∧ n < 0x10000000000000000)
    {rest : List Char} (hrest : EndsNumber rest) :
    readNumber ((Numeric.whole n range).chars ++ rest) =
      some (.number (some (.whole n range)), rest) := by
  have hread := readNumber_digits (decide (n < 0)) (m := n.natAbs) hrest
  rw [number?_whole range] at hread
  rw [← hread, Numeric.chars, Numeral.ofInt]
  by_cases hneg : n < 0 <;> simp [hneg]

end Json

end RecordQuery
