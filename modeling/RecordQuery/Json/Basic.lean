import RecordQuery.Keyed
import RecordQuery.Number.Basic

/-! # JSON values

A JSON number is a whole number of 64 bits, signed or not, or a finite floating-point number. The
members of an object are kept by ascending key.
-/

namespace RecordQuery

namespace Json

inductive Numeric where
  | whole (n : Int) (range : -0x8000000000000000 ≤ n ∧ n < 0x10000000000000000)
  | real (negative : Bool) (magnitude : Binary64.Magnitude)
      (finite : magnitude ≠ Binary64.Magnitude.infinity)
  deriving DecidableEq

namespace Numeric

def ofBinary64? : Binary64 → Option Numeric
  | .nan => none
  | .signed negative x =>
    if finite : x ≠ Binary64.Magnitude.infinity then some (real negative x finite) else none

/-- The whole number, if it fits in 64 bits. -/
def ofInt? (n : Int) : Option Numeric :=
  if range : -0x8000000000000000 ≤ n ∧ n < 0x10000000000000000 then some (whole n range) else none

def ofInt64 (n : Int64) : Numeric :=
  whole n.toInt ⟨Int64.le_toInt n, by have := Int64.toInt_lt n; omega⟩

def ofUInt64 (n : UInt64) : Numeric :=
  whole n.toNat ⟨by omega, by have := n.toNat_lt; omega⟩

def ofUInt32 (n : UInt32) : Numeric :=
  whole n.toNat ⟨by omega, by have := n.toNat_lt; omega⟩

/-- A whole number that fits a signed word. -/
def int64? : Numeric → Option Int64
  | whole n _ => if n < 0x8000000000000000 then some (Int64.ofInt n) else none
  | real .. => none

/-- A whole number that fits an unsigned word. -/
def uint64? : Numeric → Option UInt64
  | whole n _ => if 0 ≤ n then some (UInt64.ofNat n.toNat) else none
  | real .. => none

def chars : Numeric → List Char
  | whole n _ => Numeral.ofInt n
  | real negative x _ =>
    if negative then '-' :: Numeral.scientific x else Numeral.scientific x

end Numeric

end Json

inductive Json where
  | null
  | bool (b : Bool)
  | number (n : Json.Numeric)
  | text (s : String)
  | array (items : List Json)
  | object (members : List (String × Json))
  deriving Inhabited

namespace Json

def typeName : Json → String
  | null => "null"
  | bool _ => "bool"
  | number _ => "number"
  | text _ => "string"
  | array _ => "array"
  | object _ => "object"

/-- An object with the given members, of which the last of several with one key counts. -/
def ofMembers (members : List (String × Json)) : Json :=
  object (Keyed.ofList members)

def ofNat (n : Nat) : Json :=
  match Numeric.ofInt? n with
  | some n => number n
  | none => null

def ofInt (n : Int) : Json :=
  match Numeric.ofInt? n with
  | some n => number n
  | none => null

def ofText? : Option String → Json
  | some s => text s
  | none => null

end Json

namespace Number

/-- A whole number is signed if it fits a signed word and unsigned otherwise. -/
def ofJson : Json.Numeric → Number
  | .whole n _ => if n < 0x8000000000000000 then signed (Int64.ofInt n) else unsigned (UInt64.ofNat n.toNat)
  | .real negative x _ => real (.signed negative x)

/-- Infinite numbers and what is not a number have no JSON form but null. -/
def toJson : Number → Json
  | signed n => .number (.ofInt64 n)
  | unsigned n => .number (.ofUInt64 n)
  | real x => match Json.Numeric.ofBinary64? x with
    | some n => .number n
    | none => .null

end Number

end RecordQuery
