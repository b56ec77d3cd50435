import RecordQuery.Proofs.DecimalText

/-!
# Whole numbers in floating-point arithmetic

Rounding whole numbers keeps their order. Those below `2 ^ 53` are represented exactly, and no
greater one is rounded to one of them. So comparing any whole number with a small one as
floating-point numbers is comparing the whole numbers themselves, and a small whole number and a
floating-point number with the same text compare alike with everything.
-/

namespace RecordQuery

open Rounding

namespace Binary64.Magnitude

/-! ### Rounding whole numbers -/

theorem leastNormal_eq : leastNormal = 2 ^ 52 := by norm_num [leastNormal]

theorem inUnits_fine (n j : Nat) : inUnits n 1 (-(j : Int)) = (n * 2 ^ j, 1) := by
  cases j with
  | zero => simp [inUnits]
  | succ j => rfl

theorem inUnits_coarse (n j : Nat) : inUnits n 1 (j : Int) = (n, 2 ^ j) := by
  simp [inUnits]

theorem divideToEven_one (n : Nat) : divideToEven n 1 = n := by
  simp [divideToEven, Nat.mod_one]

theorem divideToEven_bounds (num den : Nat) :
    num / den ≤ divideToEven num den ∧ divideToEven num den ≤ num / den + 1 := by
  unfold divideToEven
  dsimp only
  split_ifs <;> omega

theorem divideToEven_mono {m n : Nat} (den : Nat) (h : m ≤ n) :
    divideToEven m den ≤ divideToEven n den := by
  have hquotient : m / den ≤ n / den := Nat.div_le_div_right h
  have hrest : m / den = n / den → m % den ≤ n % den := by
    intro heq
    have hm := Nat.div_add_mod m den
    have hn := Nat.div_add_mod n den
    rw [heq] at hm
    omega
  unfold divideToEven
  dsimp only
  split_ifs <;> omega

/-- The unit of a whole number is chosen by its binary logarithm. -/
theorem unitExponent_whole {n : Nat} (hn : n ≠ 0) :
    unitExponent 53 (-1074) n 1 = (Nat.log2 n : Int) - 52 := by
  have hlog : 2 ^ Nat.log2 n ≤ n := Nat.log2_self_le hn
  have hone : Nat.log2 1 = 0 := by decide
  unfold unitExponent
  rw [hone]
  rcases Nat.le_total (Nat.log2 n) 52 with hsmall | hlarge
  · obtain ⟨j, hj⟩ := Nat.exists_eq_add_of_le hsmall
    have hguess : (Nat.log2 n : Int) - (0 : Nat) - ((53 : Nat) - 1) = -(j : Int) := by omega
    have hfull : ¬n * 2 ^ j < 1 * Nat.pow 2 (53 - 1) := by
      rw [Nat.not_lt, Nat.one_mul, Nat.pow_eq]
      calc
        2 ^ (53 - 1) = 2 ^ Nat.log2 n * 2 ^ j := by rw [← Nat.pow_add, ← hj]
        _ ≤ n * 2 ^ j := Nat.mul_le_mul_right _ hlog
    rw [hguess]
    dsimp only
    rw [inUnits_fine]
    dsimp only
    rw [if_neg hfull]
    omega
  · obtain ⟨j, hj⟩ := Nat.exists_eq_add_of_le hlarge
    have hguess : (Nat.log2 n : Int) - (0 : Nat) - ((53 : Nat) - 1) = (j : Int) := by omega
    have hfull : ¬n < 2 ^ j * Nat.pow 2 (53 - 1) := by
      rw [Nat.not_lt, Nat.pow_eq]
      calc
        2 ^ j * 2 ^ (53 - 1) = 2 ^ Nat.log2 n := by rw [← Nat.pow_add, hj, Nat.add_comm]
        _ ≤ n := hlog
    rw [hguess]
    dsimp only
    rw [inUnits_coarse]
    dsimp only
    rw [if_neg hfull]
    omega

theorem round_eq {precision num den n d : Nat} {least q : Int}
    (hq : unitExponent precision least num den = q) (hunits : inUnits num den q = (n, d)) :
    Rounding.round precision least num den = (divideToEven n d, q) := by
  subst hq
  unfold Rounding.round
  dsimp only
  rewrite [hunits]
  rfl

/-- A small whole number is a whole number of units. -/
theorem round_small {n : Nat} (hn : n ≠ 0) (hlog : Nat.log2 n ≤ 52) :
    Rounding.round 53 (-1074) n 1 = (n * 2 ^ (52 - Nat.log2 n), (Nat.log2 n : Int) - 52) := by
  have hexponent : (Nat.log2 n : Int) - 52 = -((52 - Nat.log2 n : Nat) : Int) := by omega
  have hunits := inUnits_fine n (52 - Nat.log2 n)
  rw [← hexponent] at hunits
  rw [round_eq (unitExponent_whole hn) hunits, divideToEven_one]

theorem round_large {n : Nat} (hn : n ≠ 0) (hlog : 52 ≤ Nat.log2 n) :
    Rounding.round 53 (-1074) n 1 =
      (divideToEven n (2 ^ (Nat.log2 n - 52)), (Nat.log2 n : Int) - 52) := by
  have hexponent : (Nat.log2 n : Int) - 52 = ((Nat.log2 n - 52 : Nat) : Int) := by omega
  have hunits := inUnits_coarse n (Nat.log2 n - 52)
  rw [← hexponent] at hunits
  exact round_eq (unitExponent_whole hn) hunits

theorem val_ofRatio {num den m : Nat} {q : Int} (hnum : num ≠ 0)
    (hround : Rounding.round 53 (-1074) num den = (m, q)) :
    (ofRatio num den).val = min ((q + 1074).toNat * leastNormal + m) infinityBits := by
  unfold ofRatio
  rewrite [if_neg hnum, hround]
  rfl

/-- The coefficient that a whole number is rounded to, in the unit of its binary logarithm. -/
def significand (n : Nat) : Nat :=
  if Nat.log2 n ≤ 52 then n * 2 ^ (52 - Nat.log2 n)
  else divideToEven n (2 ^ (Nat.log2 n - 52))

theorem significand_small {n : Nat} (hlog : Nat.log2 n ≤ 52) :
    significand n = n * 2 ^ (52 - Nat.log2 n) :=
  if_pos hlog

theorem le_significand {n : Nat} (hn : n ≠ 0) : leastNormal ≤ significand n := by
  rw [significand, leastNormal_eq]
  split
  next hsmall =>
    calc
      2 ^ 52 = 2 ^ Nat.log2 n * 2 ^ (52 - Nat.log2 n) := by rw [← Nat.pow_add]; congr 1; omega
      _ ≤ n * 2 ^ (52 - Nat.log2 n) := Nat.mul_le_mul_right _ (Nat.log2_self_le hn)
  next hlarge =>
    refine le_trans ?_ (divideToEven_bounds n _).1
    rw [Nat.le_div_iff_mul_le (Nat.two_pow_pos _), ← Nat.pow_add]
    calc
      2 ^ (52 + (Nat.log2 n - 52)) = 2 ^ Nat.log2 n := by congr 1; omega
      _ ≤ n := Nat.log2_self_le hn

theorem significand_lt {n : Nat} (hlog : Nat.log2 n ≤ 52) : significand n < 2 * leastNormal := by
  rw [significand_small hlog, leastNormal_eq]
  calc
    n * 2 ^ (52 - Nat.log2 n) < 2 ^ (Nat.log2 n + 1) * 2 ^ (52 - Nat.log2 n) :=
      Nat.mul_lt_mul_of_pos_right Nat.lt_log2_self (Nat.two_pow_pos _)
    _ = 2 * 2 ^ 52 := by rw [← Nat.pow_add, ← Nat.pow_succ']; congr 1; omega

/-- A coefficient may be rounded up to the next power of two. -/
theorem significand_le (n : Nat) : significand n ≤ 2 * leastNormal := by
  rcases Nat.lt_or_ge 52 (Nat.log2 n) with hlarge | hsmall
  · have hquotient : n / 2 ^ (Nat.log2 n - 52) < 2 * 2 ^ 52 := by
      rw [Nat.div_lt_iff_lt_mul (Nat.two_pow_pos _)]
      calc
        n < 2 ^ (Nat.log2 n + 1) := Nat.lt_log2_self
        _ = 2 * 2 ^ 52 * 2 ^ (Nat.log2 n - 52) := by
          rw [← Nat.pow_succ', ← Nat.pow_add]; congr 1; omega
    rw [significand, if_neg hlarge.not_ge, leastNormal_eq]
    exact (divideToEven_bounds n _).2.trans hquotient
  · exact (significand_lt hsmall).le

theorem significand_mono {m n : Nat} (hlog : Nat.log2 m = Nat.log2 n) (h : m ≤ n) :
    significand m ≤ significand n := by
  rw [significand, significand, hlog]
  split
  · exact Nat.mul_le_mul_right _ h
  · exact divideToEven_mono _ h

theorem infinityBits_eq : infinityBits = 2047 * leastNormal := by
  norm_num [infinityBits, leastNormal]

/-- The bits of the magnitude that a whole number is rounded to, as far as it is finite. -/
def wholeBits (n : Nat) : Nat :=
  (Nat.log2 n + 1022) * leastNormal + significand n

theorem val_ofRatio_whole {n : Nat} (hn : n ≠ 0) :
    (ofRatio n 1).val = min (wholeBits n) infinityBits := by
  have hunit : ((Nat.log2 n : Int) - 52 + 1074).toNat = Nat.log2 n + 1022 := by omega
  rw [wholeBits, significand]
  split
  next hsmall => rw [val_ofRatio hn (round_small hn hsmall), hunit]
  next hlarge => rw [val_ofRatio hn (round_large hn (by omega)), hunit]

theorem wholeBits_lt {n : Nat} (hlog : Nat.log2 n ≤ 52) : wholeBits n < infinityBits := by
  have hcoefficient := significand_lt hlog
  rw [infinityBits_eq, wholeBits]
  generalize leastNormal = unit at *
  calc
    (Nat.log2 n + 1022) * unit + significand n < (Nat.log2 n + 1022) * unit + 2 * unit :=
      Nat.add_lt_add_left hcoefficient _
    _ = (Nat.log2 n + 1024) * unit := by ring
    _ ≤ 2047 * unit := Nat.mul_le_mul_right unit (by omega)

/-- **A small whole number is represented exactly.** -/
theorem val_ofRatio_small {n : Nat} (hn : n ≠ 0) (hlog : Nat.log2 n ≤ 52) :
    (ofRatio n 1).val = (Nat.log2 n + 1022) * leastNormal + n * 2 ^ (52 - Nat.log2 n) := by
  rw [val_ofRatio_whole hn, Nat.min_eq_left (wholeBits_lt hlog).le, wholeBits,
    significand_small hlog]

/-! ### Order -/

theorem val_ofRatio_zero : (ofRatio 0 1).val = 0 := rfl

theorem val_ofRatio_pos {n : Nat} (hn : n ≠ 0) : 0 < (ofRatio n 1).val := by
  have hunit : 0 < leastNormal := by norm_num [leastNormal]
  have hcoefficient := le_significand hn
  rw [val_ofRatio_whole hn, infinityBits_eq, wholeBits]
  omega

/-- A smaller logarithm leaves room for every coefficient. -/
theorem le_wholeBits {m n : Nat} (hn : n ≠ 0) (hlog : Nat.log2 m < Nat.log2 n) :
    (Nat.log2 m + 1022) * leastNormal + 2 * leastNormal ≤ wholeBits n := by
  have hcoefficient := le_significand hn
  rw [wholeBits]
  generalize leastNormal = unit at *
  calc
    (Nat.log2 m + 1022) * unit + 2 * unit = (Nat.log2 m + 1023) * unit + unit := by ring
    _ ≤ (Nat.log2 n + 1022) * unit + significand n :=
      Nat.add_le_add (Nat.mul_le_mul_right unit (by omega)) hcoefficient

theorem log2_lt_or_eq {m n : Nat} (hm : m ≠ 0) (h : m ≤ n) :
    Nat.log2 m < Nat.log2 n ∨ Nat.log2 m = Nat.log2 n :=
  Nat.lt_or_eq_of_le ((Nat.le_log2 (by omega)).mpr ((Nat.log2_self_le hm).trans h))

/-- **Rounding whole numbers is monotone.** -/
theorem val_ofRatio_mono {m n : Nat} (h : m ≤ n) : (ofRatio m 1).val ≤ (ofRatio n 1).val := by
  by_cases hzero : m = 0
  · rw [hzero, val_ofRatio_zero]
    exact Nat.zero_le _
  have hn : n ≠ 0 := by omega
  rw [val_ofRatio_whole hzero, val_ofRatio_whole hn]
  refine min_le_min_right _ ?_
  rcases log2_lt_or_eq hzero h with hlog | hlog
  · exact (Nat.add_le_add_left (significand_le m) _).trans (le_wholeBits hn hlog)
  · rw [wholeBits, wholeBits, hlog]
    exact Nat.add_le_add_left (significand_mono hlog h) _

/-- **Rounding keeps a small whole number below the greater ones.** -/
theorem val_ofRatio_lt {m n : Nat} (hm : m < 2 ^ 53) (hlt : m < n) :
    (ofRatio m 1).val < (ofRatio n 1).val := by
  have hn : n ≠ 0 := by omega
  by_cases hzero : m = 0
  · rw [hzero, val_ofRatio_zero]
    exact val_ofRatio_pos hn
  have hsmall : Nat.log2 m ≤ 52 := Nat.le_of_lt_succ ((Nat.log2_lt hzero).mpr hm)
  have hfinite := wholeBits_lt hsmall
  rw [val_ofRatio_whole hzero, val_ofRatio_whole hn, Nat.min_eq_left hfinite.le]
  refine lt_min ?_ hfinite
  rcases log2_lt_or_eq hzero hlt.le with hlog | hlog
  · exact (Nat.add_lt_add_left (significand_lt hsmall) _).trans_le (le_wholeBits hn hlog)
  · rw [wholeBits, wholeBits, significand_small hsmall, significand_small (hlog ▸ hsmall), hlog]
    exact Nat.add_lt_add_left (Nat.mul_lt_mul_of_pos_right hlt (Nat.two_pow_pos _)) _

/-- Comparing magnitudes of whole numbers, one of them small, is comparing the numbers. -/
theorem val_ofRatio_lt_iff {m n : Nat} (hn : n < 2 ^ 53) :
    ((ofRatio m 1).val < (ofRatio n 1).val ↔ m < n) ∧
      ((ofRatio n 1).val < (ofRatio m 1).val ↔ n < m) := by
  rcases Nat.lt_trichotomy m n with hlt | rfl | hgt
  · have := val_ofRatio_lt (by omega) hlt
    omega
  · omega
  · have := val_ofRatio_lt hn hgt
    omega

/-! ### Value -/

/-- The value of a finite magnitude lies in its interval. -/
theorem attracts_value {x : Magnitude} (hx : x.val ≠ 0) :
    x.Attracts (x.coefficient * 2 ^ x.exponent) := by
  have hcoefficient := coefficient_pos hx
  have hmiddle : (x.coefficient : ℚ) * 2 ^ x.exponent = x.interval.2.1 * x.step := by
    have hquarter : (2 : ℚ) ^ x.exponent = 4 * x.step := by
      rw [step, zpow_sub₀ (by norm_num)]
      ring
    rw [hquarter]
    simp only [interval]
    push_cast
    ring
  have hends : x.interval.1 < x.interval.2.1 ∧ x.interval.2.1 < x.interval.2.2 := by
    simp only [interval]
    split <;> omega
  have hlower : x.lower < x.interval.2.1 * x.step :=
    mul_lt_mul_of_pos_right (by exact_mod_cast hends.1) x.step_pos
  have hupper : x.interval.2.1 * x.step < x.upper :=
    mul_lt_mul_of_pos_right (by exact_mod_cast hends.2) x.step_pos
  rw [hmiddle, Attracts]
  split
  · exact ⟨hlower.le, hupper.le⟩
  · exact ⟨hlower, hupper⟩

theorem parts_ofRatio_small {n : Nat} (hn : n ≠ 0) (hlog : Nat.log2 n ≤ 52) :
    (ofRatio n 1).coefficient = n * 2 ^ (52 - Nat.log2 n) ∧
      (ofRatio n 1).exponent = (Nat.log2 n : Int) - 52 := by
  have hval := val_ofRatio_small hn hlog
  have hleast := le_significand hn
  have hmost := significand_lt hlog
  rw [significand_small hlog] at hleast hmost
  have hunit : 0 < leastNormal := by norm_num [leastNormal]
  rw [coefficient, exponent, hval]
  generalize n * 2 ^ (52 - Nat.log2 n) = c at *
  generalize leastNormal = unit at *
  obtain ⟨d, rfl⟩ := Nat.exists_eq_add_of_le hleast
  have hnormal : unit ≤ (Nat.log2 n + 1022) * unit + (unit + d) := by omega
  have hsplit : (Nat.log2 n + 1022) * unit + (unit + d) = d + unit * (Nat.log2 n + 1023) := by ring
  have hrest : d < unit := by omega
  rw [if_neg hnormal.not_gt, if_neg hnormal.not_gt, hsplit, Nat.add_mul_mod_self_left,
    Nat.mod_eq_of_lt hrest, Nat.add_mul_div_left _ _ hunit, Nat.div_eq_of_lt hrest]
  exact ⟨rfl, by omega⟩

/-- **A small whole number lies in the interval of its magnitude.** -/
theorem attracts_ofRatio {n : Nat} (hn : n < 2 ^ 53) : (ofRatio n 1).Attracts n := by
  by_cases hzero : n = 0
  · subst hzero
    have hshortest : (ofRatio 0 1).shortest = ⟨0, 0⟩ := if_pos val_ofRatio_zero
    have hattracts := attracts_shortest (x := ofRatio 0 1) (by decide)
    rwa [hshortest, Decimal.value, Nat.cast_zero, zero_mul, ← Nat.cast_zero] at hattracts
  · have hlog : Nat.log2 n ≤ 52 := Nat.le_of_lt_succ ((Nat.log2_lt hzero).mpr hn)
    obtain ⟨hcoefficient, hexponent⟩ := parts_ofRatio_small hzero hlog
    have hattracts := attracts_value (val_ofRatio_pos hzero).ne'
    have hvalue : ((n * 2 ^ (52 - Nat.log2 n) : Nat) : ℚ) * 2 ^ ((Nat.log2 n : Int) - 52) = n := by
      have hexponent : (Nat.log2 n : Int) - 52 = -((52 - Nat.log2 n : Nat) : Int) := by omega
      rw [hexponent, zpow_neg, zpow_natCast]
      push_cast
      rw [mul_assoc, mul_inv_cancel₀ (by positivity), mul_one]
    rwa [hcoefficient, hexponent, hvalue] at hattracts

end Binary64.Magnitude

namespace Binary64

/-- **A whole number and a small one compare as floating-point numbers as they do themselves.** -/
theorem compare?_ofInt (m n : Int) (hn : n.natAbs < 2 ^ 53) :
    (ofInt m).compare? (ofInt n) = some (compare m n) := by
  obtain ⟨hlt, hgt⟩ := Magnitude.val_ofRatio_lt_iff (m := m.natAbs) hn
  have hzero := Magnitude.val_ofRatio_zero
  have hpositive : ∀ k : Nat, k ≠ 0 → 0 < (Magnitude.ofRatio k 1).val :=
    fun _ => Magnitude.val_ofRatio_pos
  have hm := hpositive m.natAbs
  have hn := hpositive n.natAbs
  rw [ofInt, ofInt, Binary64.compare?]
  refine congrArg some ?_
  have hkeys : (key (m < 0) (Magnitude.ofRatio m.natAbs 1) <
      key (n < 0) (Magnitude.ofRatio n.natAbs 1) ↔ m < n) ∧
      (key (m < 0) (Magnitude.ofRatio m.natAbs 1) =
        key (n < 0) (Magnitude.ofRatio n.natAbs 1) ↔ m = n) := by
    simp only [key, decide_eq_true_eq]
    generalize (Magnitude.ofRatio m.natAbs 1).val = x at *
    generalize (Magnitude.ofRatio n.natAbs 1).val = y at *
    constructor <;> split <;> split <;> omega
  simp only [compare, compareOfLessAndEq, hkeys.1, hkeys.2]

end Binary64

namespace Number

open Numeral

/-- Whole numbers are small enough to be exact as floating-point numbers. -/
def Exact : Number → Prop
  | signed n => n.toInt.natAbs < 2 ^ 53
  | unsigned n => n.toNat < 2 ^ 53
  | real _ => True

instance : DecidablePred Exact := fun n => by
  cases n <;> unfold Exact <;> infer_instance

/-- Comparing with an exact number is comparing with its floating-point form. -/
theorem compare?_exact {n : Number} (hn : n.Exact) (k : Number) :
    k.compare? n = k.toBinary64.compare? n.toBinary64 := by
  cases n with
  | signed n =>
      cases k with
      | signed k => exact (Binary64.compare?_ofInt _ _ hn).symm
      | unsigned k => exact (Binary64.compare?_ofInt _ _ hn).symm
      | real k => rfl
  | unsigned n =>
      have hsmall : (n.toNat : Int).natAbs < 2 ^ 53 := hn
      cases k with
      | signed k => exact (Binary64.compare?_ofInt _ _ hsmall).symm
      | unsigned k => exact (Binary64.compare?_ofInt _ _ hsmall).symm
      | real k => rfl
  | real x => cases k <;> rfl

/-- The floating-point form of an exact number has the sign and the value that are spelled. -/
theorem Spelled.attracts {n : Number} {negative : Bool} {v : ℚ} (h : n.Spelled negative v)
    (hn : n.Exact) : ∃ x, n.toBinary64 = .signed negative x ∧ x.Attracts v := by
  cases h with
  | signed n => exact ⟨_, rfl, Binary64.Magnitude.attracts_ofRatio hn⟩
  | unsigned n => exact ⟨_, rfl, Binary64.Magnitude.attracts_ofRatio hn⟩
  | real negative hx => exact ⟨_, rfl, Binary64.Magnitude.attracts_shortest hx⟩

/-- The numbers whose texts are names. -/
inductive Named : Number → Prop
  | nan : Named (.real .nan)
  | infinite (negative : Bool) : Named (.real (.signed negative .infinity))

theorem spelled_or_named (n : Number) : (∃ negative v, n.Spelled negative v) ∨ n.Named := by
  cases n with
  | signed n => exact Or.inl ⟨_, _, .signed n⟩
  | unsigned n => exact Or.inl ⟨_, _, .unsigned n⟩
  | real x =>
      cases x with
      | nan => exact Or.inr .nan
      | signed negative x =>
          by_cases hx : x = Binary64.Magnitude.infinity
          · subst hx
            exact Or.inr (.infinite negative)
          · exact Or.inl ⟨_, _, .real negative hx⟩

theorem Named.text {n : Number} (h : n.Named) :
    n.text = "NaN" ∨ n.text = "inf" ∨ n.text = "-inf" := by
  cases h with
  | nan => exact Or.inl rfl
  | infinite negative => cases negative <;> simp [Number.text, plain]

theorem Named.unique {m n : Number} (hm : m.Named) (hn : n.Named) (h : m.text = n.text) :
    m = n := by
  cases hm with
  | nan =>
      cases hn with
      | nan => rfl
      | infinite t => cases t <;> simp [Number.text, plain, String.ext_iff] at h
  | infinite s =>
      cases hn with
      | nan => cases s <;> simp [Number.text, plain, String.ext_iff] at h
      | infinite t => cases s <;> cases t <;> simp [Number.text, plain, String.ext_iff] at h ⊢

theorem Spelled.not_named {m n : Number} {negative : Bool} {v : ℚ} (hm : m.Spelled negative v)
    (hn : n.Named) : m.text ≠ n.text := by
  obtain ⟨body, hbody, hspells⟩ := hm.text
  obtain ⟨c, rest, rfl, hdigit⟩ := hspells.head
  intro heq
  rw [heq] at hbody
  rcases hn.text with htext | htext | htext <;> cases negative <;>
    simp [htext, withSign] at hbody <;> simp [← hbody.1] at hdigit

/-- **Exact numbers with the same text have the same floating-point form.** -/
theorem toBinary64_eq_of_text {m n : Number} (hm : m.Exact) (hn : n.Exact)
    (h : m.text = n.text) : m.toBinary64 = n.toBinary64 := by
  rcases spelled_or_named m with ⟨s, v, hspelled⟩ | hnamed
  · rcases spelled_or_named n with ⟨t, w, hspelled'⟩ | hnamed'
    · obtain ⟨rfl, rfl⟩ := hspelled.unique hspelled' h
      obtain ⟨x, hx, hattracts⟩ := hspelled.attracts hm
      obtain ⟨y, hy, hattracts'⟩ := hspelled'.attracts hn
      rw [hx, hy, hattracts.unique hattracts']
    · exact absurd h (hspelled.not_named hnamed')
  · rcases spelled_or_named n with ⟨t, w, hspelled'⟩ | hnamed'
    · exact absurd h.symm (hspelled'.not_named hnamed)
    · rw [hnamed.unique hnamed' h]

/-- The value of a whole number. -/
def int? : Number → Option Int
  | signed n => some n.toInt
  | unsigned n => some n.toNat
  | real _ => none

/-- With a whole number, whole numbers compare by value and all others by its floating-point
form. -/
theorem compare?_int {n : Number} {i : Int} (hn : n.int? = some i) (k : Number) :
    k.compare? n = match k.int? with
      | some j => some (compare j i)
      | none => k.toBinary64.compare? (.ofInt i) := by
  cases n with
  | real => cases hn
  | _ =>
      cases hn
      cases k <;> rfl

theorem spelled_int {n : Number} {i : Int} (hn : n.int? = some i) :
    n.Spelled (i < 0) i.natAbs := by
  cases n with
  | signed n =>
      cases hn
      exact .signed n
  | unsigned n =>
      cases hn
      have hsign : decide ((n.toNat : Int) < 0) = false := decide_eq_false (by omega)
      rw [hsign]
      exact .unsigned n
  | real => cases hn

theorem int_unique {m n : Number} {i j : Int} (hm : m.int? = some i) (hn : n.int? = some j)
    (h : m.text = n.text) : i = j := by
  obtain ⟨hsign, hvalue⟩ := (spelled_int hm).unique (spelled_int hn) h
  rw [decide_eq_decide] at hsign
  have hvalue : i.natAbs = j.natAbs := by exact_mod_cast hvalue
  omega

/-- The numbers have the same text, but one is whole and beyond what floating-point numbers
represent, and the other one is a floating-point number. -/
def Clashes (m n : Number) : Prop :=
  m.text = n.text ∧ m.int?.isSome ≠ n.int?.isSome ∧ ¬(m.Exact ∧ n.Exact)

instance (m n : Number) : Decidable (m.Clashes n) := by
  unfold Clashes
  infer_instance

/-- **Numbers with the same text compare alike with every number** unless they clash. -/
theorem compare?_eq_of_text {m n : Number} (hclash : ¬m.Clashes n) (h : m.text = n.text)
    (k : Number) : k.compare? m = k.compare? n := by
  have hexact : m.Exact → n.Exact → k.compare? m = k.compare? n := fun hm hn => by
    rw [compare?_exact hm, compare?_exact hn, toBinary64_eq_of_text hm hn h]
  by_cases hforms : m.int?.isSome = n.int?.isSome
  · cases hm : m.int? with
    | none =>
        -- neither number is whole
        have hreal : ∀ {n : Number}, n.int? = none → n.Exact := by
          rintro (n | n | n) hn
          · cases hn
          · cases hn
          · exact trivial
        exact hexact (hreal hm) (hreal (by simpa [hm] using hforms))
    | some i =>
        obtain ⟨j, hn⟩ : ∃ j, n.int? = some j := by simpa [hm, Option.isSome_iff_exists] using hforms
        obtain rfl := int_unique hm hn h
        rw [compare?_int hm, compare?_int hn]
  · by_contra hdiffer
    exact hclash ⟨h, hforms, fun hboth => hdiffer (hexact hboth.1 hboth.2)⟩

end Number

end RecordQuery
