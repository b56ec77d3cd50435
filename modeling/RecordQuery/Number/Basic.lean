import RecordQuery.Number.Text

/-! # Numbers of records and requests

A number is a signed or an unsigned whole number of 64 bits or a binary floating-point number.
-/

namespace RecordQuery

inductive Number where
  | signed (n : Int64)
  | unsigned (n : UInt64)
  | real (x : Binary64)
  deriving DecidableEq

namespace Number

/-- The floating-point number nearest to the value. -/
def toBinary64 : Number → Binary64
  | signed n => .ofInt n.toInt
  | unsigned n => .ofInt n.toNat
  | real x => x

/-- Whole numbers are ordered by value. As soon as a floating-point number takes part, both sides
are compared as such, and what is not a number is comparable with nothing. -/
def compare? : Number → Number → Option Ordering
  | signed a, signed b => some (compare a.toInt b.toInt)
  | signed a, unsigned b => some (compare a.toInt b.toNat)
  | unsigned a, signed b => some (compare (a.toNat : Int) b.toInt)
  | unsigned a, unsigned b => some (compare (a.toNat : Int) b.toNat)
  | a, b => a.toBinary64.compare? b.toBinary64

/-- Equality of numbers of the same form. -/
def equal : Number → Number → Bool
  | signed a, signed b => a == b
  | unsigned a, unsigned b => a == b
  | real a, real b => a.equal b
  | _, _ => false

def text : Number → String
  | signed n => String.ofList (Numeral.ofInt n.toInt)
  | unsigned n => String.ofList (Numeral.ofNat n.toNat)
  | real x => String.ofList (Numeral.plain x)

/-- A number text with blanks around it: a whole number if it fits 64 bits, else a finite
floating-point number. -/
def ofChars? (cs : List Char) : Option Number :=
  match Numeral.int64? cs with
  | some n => some (signed n)
  | none => match Numeral.uint64? cs with
    | some n => some (unsigned n)
    | none => ((Numeral.real? cs).filter Binary64.isFinite).map real

end Number

end RecordQuery
