import RecordQuery.Number.Rounding

/-! # Binary floating-point numbers of 64 bits

A number is a sign and a magnitude. The magnitude is kept as the exponent and fraction bits of the
interchange format, read as one number: it grows with the value it stands for, and the greatest
one stands for infinity. All that is not a number is one value.
-/

namespace RecordQuery

namespace Binary64

/-- The exponent and fraction bits of infinity. -/
abbrev infinityBits : Nat := 0x7ff0000000000000

/-- Exponent and fraction bits, up to those of infinity. -/
abbrev Magnitude := Fin (infinityBits + 1)

end Binary64

inductive Binary64 where
  | nan
  | signed (negative : Bool) (magnitude : Binary64.Magnitude)
  deriving DecidableEq

namespace Binary64

namespace Magnitude

/-- The least coefficient with all 53 bits. -/
abbrev leastNormal : Nat := 0x10000000000000

def infinity : Magnitude := ⟨infinityBits, Nat.lt_succ_self _⟩

/-- The coefficient `m` of a finite magnitude `m * 2 ^ q`. -/
def coefficient (x : Magnitude) : Nat :=
  if x.val < leastNormal then x.val else leastNormal + x.val % leastNormal

/-- The exponent `q` of a finite magnitude `m * 2 ^ q`. -/
def exponent (x : Magnitude) : Int :=
  if x.val < leastNormal then -1074 else (x.val / leastNormal : Nat) - 1075

/-- A finite magnitude as a ratio. -/
def ratio (x : Magnitude) : Nat × Nat :=
  match x.exponent with
  | .ofNat e => (x.coefficient * Nat.pow 2 e, 1)
  | .negSucc e => (x.coefficient, Nat.pow 2 (e + 1))

/-- The magnitude nearest to `num / den`, which is infinity beyond the greatest finite one. -/
def ofRatio (num den : Nat) : Magnitude :=
  if num = 0 then ⟨0, by decide⟩
  else
    let (m, q) := Rounding.round 53 (-1074) num den
    ⟨min ((q + 1074).toNat * leastNormal + m) infinityBits, by omega⟩

/-- The magnitude nearest to `digits * 10 ^ exponent`. A power of ten far outside the range of
finite magnitudes decides alone. -/
def ofDecimal (digits : Nat) (exponent : Int) : Magnitude :=
  if digits = 0 then ⟨0, by decide⟩
  else if exponent > 400 then infinity
  else if exponent + (Nat.log2 digits / 3 + 1 : Nat) < -400 then ⟨0, by decide⟩
  else match exponent with
    | .ofNat e => ofRatio (digits * Nat.pow 10 e) 1
    | .negSucc e => ofRatio digits (Nat.pow 10 (e + 1))

def times (x y : Magnitude) : Magnitude :=
  ofRatio (x.ratio.1 * y.ratio.1) (x.ratio.2 * y.ratio.2)

def div (x y : Magnitude) : Magnitude :=
  ofRatio (x.ratio.1 * y.ratio.2) (x.ratio.2 * y.ratio.1)

end Magnitude

def zero : Binary64 := signed false ⟨0, by decide⟩

def isFinite : Binary64 → Bool
  | nan => false
  | signed _ x => x != Magnitude.infinity

/-- A number whose order among such numbers is that of the values; both zeros have the key 0. -/
def key (negative : Bool) (x : Magnitude) : Int :=
  if negative then -(x.val : Int) else x.val

/-- The order of the values; nothing is comparable with what is not a number. -/
def compare? : Binary64 → Binary64 → Option Ordering
  | signed s x, signed t y => some (compare (key s x) (key t y))
  | _, _ => none

/-- Equality of the values: the two zeros are equal, and what is not a number differs from
itself. -/
def equal (x y : Binary64) : Bool :=
  compare? x y == some .eq

def ofInt (n : Int) : Binary64 :=
  signed (n < 0) (Magnitude.ofRatio n.natAbs 1)

def ofDecimal (negative : Bool) (digits : Nat) (exponent : Int) : Binary64 :=
  signed negative (Magnitude.ofDecimal digits exponent)

/-- The number that a decimal becomes when it is first rounded to the 32-bit format. -/
def ofDecimalSingle (negative : Bool) (digits : Nat) (exponent : Int) : Binary64 :=
  match ofDecimal negative digits exponent with
  | nan => nan
  | signed s x =>
    if x = Magnitude.infinity then signed s x
    else if digits = 0 ∨ exponent + (Nat.log2 digits / 3 + 1 : Nat) < -400 then
      signed s ⟨0, by decide⟩
    else
      let (num, den) := match exponent with
        | .ofNat e => (digits * Nat.pow 10 e, 1)
        | .negSucc e => (digits, Nat.pow 10 (e + 1))
      let (m, q) := Rounding.round 24 (-149) num den
      match q with
      | .ofNat e =>
        if Nat.pow 2 128 ≤ m * Nat.pow 2 e then signed s Magnitude.infinity
        else signed s (Magnitude.ofRatio (m * Nat.pow 2 e) 1)
      | .negSucc e => signed s (Magnitude.ofRatio m (Nat.pow 2 (e + 1)))

example : Magnitude.ofDecimal 1 (-1) = (0x3fb999999999999a : Magnitude) := by decide +kernel
example : Magnitude.ofDecimal 5 (-324) = (1 : Magnitude) := by decide +kernel
example : Magnitude.ofDecimal 1 309 = Magnitude.infinity := by decide +kernel

end Binary64

end RecordQuery
