import RecordQuery.Number.Binary64

/-! # Shortest decimals

The decimal that stands for a finite positive magnitude is the one on the coarsest decimal grid
that has a point inside the interval of reals rounding to the magnitude; of two such points it is
the nearer one. The ends of the interval belong to it when the coefficient is even.
-/

namespace RecordQuery

/-- The number `digits * 10 ^ exponent`. -/
structure Decimal where
  digits : Nat
  exponent : Int
  deriving DecidableEq

namespace Binary64.Magnitude

/-- The reals that round to a magnitude, in quarters of its unit: lower end, value, upper end. -/
def interval (x : Magnitude) : Nat × Nat × Nat :=
  let m := x.coefficient
  let gapBelow := if m = leastNormal ∧ -1074 < x.exponent then 1 else 2
  (4 * m - gapBelow, 4 * m, 4 * m + 2)

/-- The quarter of the unit of a magnitude, in units of `10 ^ scale`, as a ratio. -/
def quarter (x : Magnitude) (scale : Int) : Nat × Nat :=
  let (num, den) := Rounding.inUnits 1 1 (2 - x.exponent)
  match scale with
  | .ofNat e => (num, den * Nat.pow 10 e)
  | .negSucc e => (num * Nat.pow 10 (e + 1), den)

/-- The point of the grid of `10 ^ scale` that stands for a magnitude, if the grid has one. -/
def onGrid? (x : Magnitude) (scale : Int) : Option Nat :=
  let (low, value, high) := x.interval
  let (num, den) := x.quarter scale
  let below := value * num / den
  let inside (n : Nat) : Bool :=
    if x.coefficient % 2 = 0 then low * num ≤ n * den && n * den ≤ high * num
    else low * num < n * den && n * den < high * num
  let up := 2 * (value * num % den)
  match inside below, inside (below + 1) with
  | true, true =>
    if up < den ∨ (up = den ∧ below % 2 = 0) then some below else some (below + 1)
  | true, false => some below
  | false, true => some (below + 1)
  | false, false => none

/-- The point on the first grid that has one, from `10 ^ scale` towards finer grids. -/
def coarsest (x : Magnitude) : Nat → Int → Decimal
  | 0, scale => ⟨0, scale⟩
  | steps + 1, scale =>
    match x.onGrid? scale with
    | some digits => ⟨digits, scale⟩
    | none => coarsest x steps (scale - 1)

/-- A power of ten above the magnitude, from its binary logarithm. -/
def topScale (x : Magnitude) : Int :=
  let log : Int := (Nat.log2 x.coefficient : Int) + 1 + x.exponent
  log * 30103 / 100000 + 2

/-- The shortest decimal that reads back as a finite magnitude. -/
def shortest (x : Magnitude) : Decimal :=
  if x.val = 0 then ⟨0, 0⟩ else coarsest x 24 x.topScale

example : shortest 0x3fb999999999999a = ⟨1, -1⟩ := by decide +kernel
example : shortest 1 = ⟨5, -324⟩ := by decide +kernel
example : shortest 0x43e0000000000000 = ⟨9223372036854776, 3⟩ := by decide +kernel

end Binary64.Magnitude

end RecordQuery
