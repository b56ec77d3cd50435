import Mathlib
import RecordQuery.Number.Shortest

/-!
# Shortest decimals tell magnitudes apart

The reals that round to a magnitude lie between the midpoints to its neighbours. The intervals of
two magnitudes have at most an end in common, and that belongs to one of them only, the one with the
even coefficient. The decimal of a finite magnitude lies in its interval, because the grids tried
for it end with one that is finer than the interval. So equal decimals belong to equal magnitudes.
-/

namespace RecordQuery

def Decimal.value (d : Decimal) : ℚ :=
  d.digits * 10 ^ d.exponent

namespace Binary64.Magnitude

/-! ### Intervals -/

/-- A quarter of the unit. -/
def step (x : Magnitude) : ℚ :=
  2 ^ (x.exponent - 2)

/-- The midpoint to the magnitude below. -/
def lower (x : Magnitude) : ℚ :=
  x.interval.1 * x.step

/-- The midpoint to the magnitude above. -/
def upper (x : Magnitude) : ℚ :=
  x.interval.2.2 * x.step

/-- The reals that round to a magnitude. -/
def Attracts (x : Magnitude) (v : ℚ) : Prop :=
  if x.coefficient % 2 = 0 then x.lower ≤ v ∧ v ≤ x.upper else x.lower < v ∧ v < x.upper

theorem Attracts.bounds {x : Magnitude} {v : ℚ} (h : x.Attracts v) :
    x.lower ≤ v ∧ v ≤ x.upper := by
  unfold Attracts at h
  split at h
  · exact h
  · exact ⟨h.1.le, h.2.le⟩

theorem Attracts.even_of_lower {x : Magnitude} (h : x.Attracts x.lower) :
    x.coefficient % 2 = 0 := by
  unfold Attracts at h
  split at h
  · assumption
  · exact absurd h.1 (lt_irrefl _)

theorem Attracts.even_of_upper {x : Magnitude} (h : x.Attracts x.upper) :
    x.coefficient % 2 = 0 := by
  unfold Attracts at h
  split at h
  · assumption
  · exact absurd h.2 (lt_irrefl _)

theorem step_pos (x : Magnitude) : 0 < x.step :=
  zpow_pos (by norm_num) _

theorem coefficient_mod_two (x : Magnitude) : x.coefficient % 2 = x.val % 2 := by
  unfold coefficient leastNormal
  split <;> omega

theorem coefficient_lt (x : Magnitude) : x.coefficient < 2 ^ 53 := by
  unfold coefficient leastNormal
  split <;> omega

theorem coefficient_pos {x : Magnitude} (hx : x.val ≠ 0) : 0 < x.coefficient := by
  unfold coefficient leastNormal
  split <;> omega

theorem lower_lt_upper (x : Magnitude) : x.lower < x.upper := by
  refine mul_lt_mul_of_pos_right ?_ x.step_pos
  have hends : x.interval.1 < x.interval.2.2 := by
    simp only [interval]
    omega
  exact_mod_cast hends

/-- The neighbours of one exponent are a unit apart; at a power of two the unit doubles. -/
theorem neighbour_cases {x y : Magnitude} (h : y.val = x.val + 1) :
    (y.exponent = x.exponent ∧ y.interval.1 = x.interval.2.2) ∨
      (y.exponent = x.exponent + 1 ∧ 2 * y.interval.1 = x.interval.2.2) := by
  simp only [interval, exponent, coefficient, leastNormal, h]
  by_cases hlast : 4503599627370496 ≤ x.val ∧ (x.val + 1) % 4503599627370496 = 0
  · refine Or.inr ?_
    split_ifs <;> omega
  · refine Or.inl ?_
    split_ifs <;> omega

/-- **Neighbours share their midpoint.** -/
theorem upper_eq_lower {x y : Magnitude} (h : y.val = x.val + 1) : x.upper = y.lower := by
  unfold upper lower step
  rcases neighbour_cases h with ⟨hexponent, hends⟩ | ⟨hexponent, hends⟩
  · rw [hexponent, hends]
  · have hdouble : (2 : ℚ) ^ (x.exponent + 1 - 2) = 2 * 2 ^ (x.exponent - 2) := by
      rw [show x.exponent + 1 - 2 = 1 + (x.exponent - 2) by ring, zpow_add₀ (by norm_num), zpow_one]
    rw [hexponent, hdouble, ← hends]
    push_cast
    ring

theorem lower_mono {x y : Magnitude} (h : x.val ≤ y.val) : x.lower ≤ y.lower := by
  obtain ⟨n, hn⟩ := Nat.exists_eq_add_of_le h
  induction n generalizing y with
  | zero =>
      obtain rfl : x = y := Fin.ext (by omega)
      exact le_refl _
  | succ n ih =>
      let z : Magnitude := ⟨x.val + n, by omega⟩
      calc
        x.lower ≤ z.lower := ih (Nat.le_add_right _ _) rfl
        _ ≤ z.upper := z.lower_lt_upper.le
        _ = y.lower := upper_eq_lower (by change y.val = x.val + n + 1; omega)

/-- **No real rounds to two magnitudes.** -/
theorem Attracts.unique {x y : Magnitude} {v : ℚ} (hx : x.Attracts v) (hy : y.Attracts v) :
    x = y := by
  by_contra hne
  wlog hlt : x.val < y.val generalizing x y
  · have hval := Fin.val_ne_of_ne hne
    exact this hy hx (Ne.symm hne) (by omega)
  let z : Magnitude := ⟨x.val + 1, by omega⟩
  have hshared : x.upper = z.lower := upper_eq_lower rfl
  have hends : x.upper ≤ y.lower := hshared ▸ lower_mono hlt
  have hupper : v = x.upper := le_antisymm hx.bounds.2 (hends.trans hy.bounds.1)
  have hlower : v = y.lower := le_antisymm (hupper.le.trans hends) hy.bounds.1
  have heven := coefficient_mod_two x ▸ (hupper ▸ hx).even_of_upper
  have heven' := coefficient_mod_two y ▸ (hlower ▸ hy).even_of_lower
  -- both ends are closed, so the magnitudes are not neighbours and there is room between them
  have hroom : z.lower < y.lower := by
    let w : Magnitude := ⟨x.val + 2, by omega⟩
    calc
      z.lower < z.upper := z.lower_lt_upper
      _ = w.lower := upper_eq_lower rfl
      _ ≤ y.lower := lower_mono (by change x.val + 2 ≤ y.val; omega)
  rw [← hshared, ← hupper, ← hlower] at hroom
  exact lt_irrefl v hroom

/-! ### Points on grids -/

theorem quarter_pos (x : Magnitude) (scale : Int) :
    0 < (x.quarter scale).1 ∧ 0 < (x.quarter scale).2 := by
  unfold quarter Rounding.inUnits
  cases 2 - x.exponent <;> cases scale <;> simp

/-- The quarter of the unit in units of a power of ten. -/
theorem quarter_eq (x : Magnitude) (scale : Int) :
    ((x.quarter scale).1 : ℚ) * 10 ^ scale = (x.quarter scale).2 * x.step := by
  have hexponent : x.exponent - 2 = -(2 - x.exponent) := by ring
  unfold step
  rw [hexponent]
  unfold quarter Rounding.inUnits
  cases 2 - x.exponent with
  | ofNat e =>
      cases scale with
      | ofNat s =>
          simp
          field_simp
      | negSucc s => simp [zpow_negSucc]
  | negSucc e =>
      have hpower : (2 : ℚ) ^ (-Int.negSucc e) = 2 ^ (e + 1) := by
        rw [Int.neg_negSucc, zpow_natCast]
      rw [hpower]
      cases scale with
      | ofNat s => simp [mul_comm]
      | negSucc s => simp [zpow_negSucc]

/-- The point of a grid lies inside the interval. -/
def inside (x : Magnitude) (scale : Int) (n : Nat) : Bool :=
  if x.coefficient % 2 = 0 then
    x.interval.1 * (x.quarter scale).1 ≤ n * (x.quarter scale).2 &&
      n * (x.quarter scale).2 ≤ x.interval.2.2 * (x.quarter scale).1
  else
    x.interval.1 * (x.quarter scale).1 < n * (x.quarter scale).2 &&
      n * (x.quarter scale).2 < x.interval.2.2 * (x.quarter scale).1

/-- The greatest point of a grid that is not above the magnitude. -/
def below (x : Magnitude) (scale : Int) : Nat :=
  x.interval.2.1 * (x.quarter scale).1 / (x.quarter scale).2

/-- That point is nearer than the next one, or as near and even. -/
def nearer (x : Magnitude) (scale : Int) : Bool :=
  let up := 2 * (x.interval.2.1 * (x.quarter scale).1 % (x.quarter scale).2)
  up < (x.quarter scale).2 ∨ (up = (x.quarter scale).2 ∧ x.below scale % 2 = 0)

theorem onGrid?_eq (x : Magnitude) (scale : Int) :
    x.onGrid? scale = match x.inside scale (x.below scale), x.inside scale (x.below scale + 1) with
      | true, true => if x.nearer scale then some (x.below scale) else some (x.below scale + 1)
      | true, false => some (x.below scale)
      | false, true => some (x.below scale + 1)
      | false, false => none := by
  simp only [nearer, decide_eq_true_eq]
  rfl

/-- Multiples of a quarter and points of the grid are compared by whole numbers. -/
theorem multiple_le_iff (x : Magnitude) (scale : Int) (a n : Nat) :
    (a * (x.quarter scale).1 ≤ n * (x.quarter scale).2 ↔ (a : ℚ) * x.step ≤ n * 10 ^ scale) ∧
      (n * (x.quarter scale).2 ≤ a * (x.quarter scale).1 ↔ (n : ℚ) * 10 ^ scale ≤ a * x.step) := by
  have hquarter := x.quarter_eq scale
  have hden : (0 : ℚ) < (x.quarter scale).2 := by exact_mod_cast (x.quarter_pos scale).2
  have hten : (0 : ℚ) < 10 ^ scale := zpow_pos (by norm_num) _
  have hmultiple : (a : ℚ) * x.step * (x.quarter scale).2 =
      a * (x.quarter scale).1 * 10 ^ scale := by
    rw [mul_assoc, mul_comm x.step, ← hquarter]
    ring
  have hpoint : (n : ℚ) * 10 ^ scale * (x.quarter scale).2 =
      n * (x.quarter scale).2 * 10 ^ scale := by ring
  constructor
  · rw [← mul_le_mul_iff_of_pos_right hden, hmultiple, hpoint, mul_le_mul_iff_of_pos_right hten]
    exact_mod_cast Iff.rfl
  · rw [← mul_le_mul_iff_of_pos_right hden, hmultiple, hpoint, mul_le_mul_iff_of_pos_right hten]
    exact_mod_cast Iff.rfl

theorem inside_iff {x : Magnitude} {scale : Int} {n : Nat} :
    x.inside scale n = true ↔ x.Attracts (n * 10 ^ scale) := by
  have hlower := x.multiple_le_iff scale x.interval.1 n
  have hupper := x.multiple_le_iff scale x.interval.2.2 n
  unfold inside Attracts lower upper
  split
  · rw [Bool.and_eq_true, decide_eq_true_iff, decide_eq_true_iff, hlower.1, hupper.2]
  · rw [Bool.and_eq_true, decide_eq_true_iff, decide_eq_true_iff, ← not_le, ← not_le, hlower.2,
      hupper.1, not_le, not_le]

theorem inside_of_onGrid? {x : Magnitude} {scale : Int} {n : Nat} (h : x.onGrid? scale = some n) :
    x.inside scale n = true := by
  rw [onGrid?_eq] at h
  cases hbelow : x.inside scale (x.below scale) <;>
    cases habove : x.inside scale (x.below scale + 1) <;>
    cases hnearer : x.nearer scale <;>
    simp only [hbelow, habove, hnearer, if_true, Bool.false_eq_true, if_false, Option.some.injEq,
      reduceCtorEq] at h <;>
    rwa [← h]

theorem onGrid?_isSome {x : Magnitude} {scale : Int} (h : x.inside scale (x.below scale) = true) :
    (x.onGrid? scale).isSome := by
  rw [onGrid?_eq, h]
  cases x.inside scale (x.below scale + 1) <;> cases x.nearer scale <;> rfl

/-- A grid no coarser than the quarter of the unit has a point inside the interval. -/
theorem inside_below {x : Magnitude} (hx : x.val ≠ 0) {scale : Int}
    (hfine : (x.quarter scale).2 ≤ (x.quarter scale).1) :
    x.inside scale (x.below scale) = true := by
  have hcoefficient := coefficient_pos hx
  obtain ⟨hnum, hden⟩ := x.quarter_pos scale
  have hends : x.interval.1 + 1 ≤ x.interval.2.1 ∧ x.interval.2.1 + 1 ≤ x.interval.2.2 := by
    simp only [interval]
    split <;> omega
  have hpoint := Nat.div_mul_le_self (x.interval.2.1 * (x.quarter scale).1) (x.quarter scale).2
  have hnext := Nat.lt_div_mul_add (a := x.interval.2.1 * (x.quarter scale).1) hden
  have hlow := Nat.mul_le_mul_right (x.quarter scale).1 hends.1
  have hhigh := Nat.mul_le_mul_right (x.quarter scale).1 hends.2
  rw [Nat.succ_mul] at hlow hhigh
  have hlower : x.interval.1 * (x.quarter scale).1 < x.below scale * (x.quarter scale).2 := by
    unfold below
    omega
  have hupper : x.below scale * (x.quarter scale).2 < x.interval.2.2 * (x.quarter scale).1 := by
    unfold below
    omega
  unfold inside
  split
  · simp [hlower.le, hupper.le]
  · simp [hlower, hupper]

/-! ### The grids that are tried -/

theorem ten_pow_le_two_pow {t e : Nat} (h : 10 * t ≤ 3 * e) : 10 ^ t ≤ 2 ^ e := by
  refine (Nat.pow_le_pow_iff_left (n := 3) (by decide)).mp ?_
  calc
    (10 ^ t) ^ 3 = (10 ^ 3) ^ t := by rw [← pow_mul, ← pow_mul, Nat.mul_comm]
    _ ≤ (2 ^ 10) ^ t := Nat.pow_le_pow_left (by decide) t
    _ = 2 ^ (10 * t) := (pow_mul 2 10 t).symm
    _ ≤ 2 ^ (3 * e) := Nat.pow_le_pow_right (by decide) h
    _ = (2 ^ e) ^ 3 := by rw [← pow_mul, Nat.mul_comm]

theorem two_pow_le_ten_pow {t e : Nat} (h : 10 * e ≤ 33 * t) : 2 ^ e ≤ 10 ^ t := by
  refine (Nat.pow_le_pow_iff_left (n := 10) (by decide)).mp ?_
  calc
    (2 ^ e) ^ 10 = 2 ^ (10 * e) := by rw [← pow_mul, Nat.mul_comm]
    _ ≤ 2 ^ (33 * t) := Nat.pow_le_pow_right (by decide) h
    _ = (2 ^ 33) ^ t := pow_mul 2 33 t
    _ ≤ (10 ^ 10) ^ t := Nat.pow_le_pow_left (by decide) t
    _ = (10 ^ t) ^ 10 := by rw [← pow_mul, ← pow_mul, Nat.mul_comm]

theorem exponent_bounds {x : Magnitude} (hx : x ≠ infinity) :
    -1074 ≤ x.exponent ∧ x.exponent ≤ 971 := by
  have hval : x.val ≠ infinityBits := fun h => hx (Fin.ext h)
  have hbound : x.val < infinityBits := by omega
  unfold infinityBits at hbound
  unfold exponent leastNormal
  split <;> omega

/-- **The last grid that is tried is fine enough.** -/
theorem fine_enough {x : Magnitude} (hx : x.val ≠ 0) (hfinite : x ≠ infinity) :
    (x.quarter (x.topScale - 23)).2 ≤ (x.quarter (x.topScale - 23)).1 := by
  have hlog : Nat.log2 x.coefficient < 53 :=
    (Nat.log2_lt (coefficient_pos hx).ne').mpr x.coefficient_lt
  obtain ⟨hlow, hhigh⟩ := exponent_bounds hfinite
  have htop : (x.topScale - 23) * 100000 ≤ (53 + x.exponent) * 30103 - 2100000 := by
    unfold topScale
    dsimp only
    omega
  generalize x.topScale - 23 = scale at htop ⊢
  unfold quarter Rounding.inUnits
  cases hunit : 2 - x.exponent with
  | ofNat e =>
      rw [Int.ofNat_eq_natCast] at hunit
      cases scale with
      | ofNat s =>
          rw [Int.ofNat_eq_natCast] at htop
          omega
      | negSucc s =>
          have hpower : 2 ^ e ≤ 10 ^ (s + 1) := two_pow_le_ten_pow (by omega)
          simpa using hpower
  | negSucc e =>
      cases scale with
      | ofNat s =>
          rw [Int.ofNat_eq_natCast] at htop
          have hpower : 10 ^ s ≤ 2 ^ (e + 1) := ten_pow_le_two_pow (by omega)
          simpa using hpower
      | negSucc s =>
          have hpower : 1 ≤ 2 ^ (e + 1) * 10 ^ (s + 1) := Nat.one_le_iff_ne_zero.mpr (by positivity)
          simpa using hpower

theorem coarsest_onGrid {x : Magnitude} {steps : Nat} {scale : Int}
    (h : (x.onGrid? (scale - steps)).isSome) :
    x.onGrid? (x.coarsest (steps + 1) scale).exponent =
      some (x.coarsest (steps + 1) scale).digits := by
  induction steps generalizing scale with
  | zero =>
      obtain ⟨digits, hdigits⟩ := Option.isSome_iff_exists.mp h
      rw [Nat.cast_zero, Int.sub_zero] at hdigits
      rw [coarsest, hdigits]
      exact hdigits
  | succ steps ih =>
      rw [coarsest]
      cases hgrid : x.onGrid? scale with
      | some digits => exact hgrid
      | none =>
          have hlast : scale - 1 - (steps : Int) = scale - (steps + 1 : Nat) := by
            push_cast
            ring
          exact ih (hlast ▸ h)

/-- **A finite magnitude is in reach of its shortest decimal.** -/
theorem attracts_shortest {x : Magnitude} (hfinite : x ≠ infinity) :
    x.Attracts x.shortest.value := by
  by_cases hx : x.val = 0
  · have hcoefficient : x.coefficient = 0 := by
      unfold coefficient leastNormal
      rw [if_pos (by omega), hx]
    have hinterval : x.interval.1 = 0 := by simp [interval, hcoefficient]
    have hlower : x.lower = 0 := by rw [lower, hinterval, Nat.cast_zero, zero_mul]
    have hvalue : x.shortest.value = 0 := by simp [shortest, hx, Decimal.value]
    rw [hvalue, Attracts, if_pos (by rw [hcoefficient])]
    exact ⟨hlower.le, hlower ▸ x.lower_lt_upper.le⟩
  · have hgrid : x.onGrid? x.shortest.exponent = some x.shortest.digits := by
      rw [shortest, if_neg hx]
      exact coarsest_onGrid (onGrid?_isSome (inside_below hx (fine_enough hx hfinite)))
    exact inside_iff.mp (inside_of_onGrid? hgrid)

/-- **Different finite magnitudes have different shortest decimals.** -/
theorem eq_of_shortest {x y : Magnitude} (hx : x ≠ infinity) (hy : y ≠ infinity)
    (h : x.shortest.value = y.shortest.value) : x = y :=
  (attracts_shortest hx).unique (h ▸ attracts_shortest hy)

end Binary64.Magnitude

end RecordQuery
