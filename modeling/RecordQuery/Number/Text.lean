import RecordQuery.Number.Shortest

/-! # Numbers as text

Reading of whole numbers and decimals, and the two notations in which decimals are written: the
plain one, which has no exponent, and the scientific one, which has an exponent when the decimal
point would stand far from the digits.
-/

namespace RecordQuery.Numeral

/-! ### Reading -/

/-- The number that digits spell after `value`; `none` when a character is no digit. -/
def digitsFrom (value : Nat) : List Char → Option Nat
  | [] => some value
  | c :: cs => if c.isDigit then digitsFrom (value * 10 + (c.toNat - 48)) cs else none

def natural? (cs : List Char) : Option Nat :=
  if cs.isEmpty then none else digitsFrom 0 cs

def unsigned? : List Char → Option Nat
  | '+' :: cs => natural? cs
  | cs => natural? cs

def signed? : List Char → Option Int
  | '-' :: cs => (natural? cs).map fun n => -(n : Int)
  | cs => (unsigned? cs).map fun n => (n : Int)

/-- A signed whole number of the given width. -/
def signedWithin? (bits : Nat) (cs : List Char) : Option Int :=
  (signed? cs).filter fun n => -(Nat.pow 2 (bits - 1) : Int) ≤ n && n < (Nat.pow 2 (bits - 1) : Int)

/-- An unsigned whole number of the given width. -/
def unsignedWithin? (bits : Nat) (cs : List Char) : Option Nat :=
  (unsigned? cs).filter (· < Nat.pow 2 bits)

def int64? (cs : List Char) : Option Int64 :=
  (signedWithin? 64 cs).map Int64.ofInt

def uint64? (cs : List Char) : Option UInt64 :=
  (unsignedWithin? 64 cs).map UInt64.ofNat

/-- What a floating-point text spells, before it is rounded. -/
inductive Spelled where
  | nan
  | infinite
  | decimal (digits : Nat) (exponent : Int)

/-- Digits with at most one decimal point, at least one digit, and an optional exponent. -/
def decimal? (cs : List Char) : Option (Nat × Int) := do
  let (whole, rest) := cs.span Char.isDigit
  let (fraction, rest) := match rest with
    | '.' :: rest => rest.span Char.isDigit
    | rest => ([], rest)
  let digits ← natural? (whole ++ fraction)
  let shift : Int := -(fraction.length : Int)
  match rest with
  | [] => some (digits, shift)
  | mark :: rest =>
    if mark = 'e' ∨ mark = 'E' then do
      let exponent ← signed? rest
      some (digits, exponent + shift)
    else none

/-- A sign, and a decimal or the name of infinity or of what is not a number in any case. -/
def spelled? (cs : List Char) : Option (Bool × Spelled) := do
  let (negative, body) := match cs with
    | '-' :: body => (true, body)
    | '+' :: body => (false, body)
    | body => (false, body)
  match String.ofList (body.map Char.toLower) with
  | "nan" => some (negative, .nan)
  | "inf" => some (negative, .infinite)
  | "infinity" => some (negative, .infinite)
  | _ =>
    let (digits, exponent) ← decimal? body
    some (negative, .decimal digits exponent)

/-- A floating-point text, rounded once to the nearest number. -/
def real? (cs : List Char) : Option Binary64 :=
  (spelled? cs).map fun (negative, value) => match value with
    | .nan => .nan
    | .infinite => .signed negative Binary64.Magnitude.infinity
    | .decimal digits exponent => .ofDecimal negative digits exponent

/-- A floating-point text, rounded to the 32-bit format. -/
def single? (cs : List Char) : Option Binary64 :=
  (spelled? cs).map fun (negative, value) => match value with
    | .nan => .nan
    | .infinite => .signed negative Binary64.Magnitude.infinity
    | .decimal digits exponent => .ofDecimalSingle negative digits exponent

/-! ### Writing -/

def ofNat (n : Nat) : List Char :=
  Nat.toDigits 10 n

def ofInt (n : Int) : List Char :=
  if n < 0 then '-' :: ofNat n.natAbs else ofNat n.natAbs

/-- A number with leading zeros up to a width. -/
def padded (width n : Nat) : List Char :=
  let digits := ofNat n
  List.replicate (width - digits.length) '0' ++ digits

/-- The digits with zeros and a decimal point where the exponent asks for them, without a
fraction when there is none. -/
def positional (d : Decimal) : List Char :=
  let digits := ofNat d.digits
  match d.exponent with
  | .ofNat e => if d.digits = 0 then ['0'] else digits ++ List.replicate e '0'
  | .negSucc e =>
    let places := e + 1
    if places < digits.length then
      digits.take (digits.length - places) ++ '.' :: digits.drop (digits.length - places)
    else ['0', '.'] ++ List.replicate (places - digits.length) '0' ++ digits

/-- Plain notation never has an exponent. -/
def plain : Binary64 → List Char
  | .nan => ['N', 'a', 'N']
  | .signed negative x =>
    let body := if x = Binary64.Magnitude.infinity then ['i', 'n', 'f'] else positional x.shortest
    if negative then '-' :: body else body

/-- The number of digits before the decimal point; negative when zeros follow the point. -/
def pointPosition (d : Decimal) : Int :=
  (ofNat d.digits).length + d.exponent

/-- One digit before the point, the others after it, and the exponent with its sign. -/
def withExponent (d : Decimal) : List Char :=
  let power := pointPosition d - 1
  let mantissa := match ofNat d.digits with
    | first :: second :: rest => first :: '.' :: second :: rest
    | digits => digits
  mantissa ++ 'e' :: (if power < 0 then ofInt power else '+' :: ofInt power)

/-- Scientific notation writes a whole number with the fraction `.0` and has an exponent from
`10 ^ 16` on and below `10 ^ -5`. -/
def scientific (x : Binary64.Magnitude) : List Char :=
  let d := x.shortest
  let position := pointPosition d
  if d.digits = 0 then ['0', '.', '0']
  else if 16 < position ∨ position < -4 then withExponent d
  else if 0 ≤ d.exponent then positional d ++ ['.', '0']
  else positional d

end RecordQuery.Numeral
