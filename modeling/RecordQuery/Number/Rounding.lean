/-! # Rounding ratios to binary grids

A positive ratio is rounded to `precision` significant bits, half to even, on a grid of powers of
two that gets no finer than a least exponent.
-/

namespace RecordQuery.Rounding

/-- The nearest whole number to `num / den`; of two equally near ones the even one. -/
def divideToEven (num den : Nat) : Nat :=
  let quotient := num / den
  let twice := 2 * (num % den)
  if twice < den then quotient
  else if den < twice then quotient + 1
  else if quotient % 2 = 0 then quotient
  else quotient + 1

/-- The ratio `num / den / 2 ^ exponent`. -/
def inUnits (num den : Nat) : Int → Nat × Nat
  | .ofNat e => (num, den * Nat.pow 2 e)
  | .negSucc e => (num * Nat.pow 2 (e + 1), den)

/-- The exponent of the unit in which `num / den` has `precision` bits, but not below `least`. -/
def unitExponent (precision : Nat) (least : Int) (num den : Nat) : Int :=
  let guess : Int := (Nat.log2 num : Int) - Nat.log2 den - ((precision : Int) - 1)
  let (n, d) := inUnits num den guess
  max (if n < d * Nat.pow 2 (precision - 1) then guess - 1 else guess) least

/-- A coefficient `m` and an exponent `q` such that `m * 2 ^ q` is nearest to `num / den`. -/
def round (precision : Nat) (least : Int) (num den : Nat) : Nat × Int :=
  let q := unitExponent precision least num den
  let (n, d) := inUnits num den q
  (divideToEven n d, q)

example : divideToEven 5 2 = 2 ∧ divideToEven 7 2 = 4 ∧ divideToEven 8 3 = 3 := by decide
example : round 53 (-1074) 1 10 = (7205759403792794, -56) := by decide

end RecordQuery.Rounding
