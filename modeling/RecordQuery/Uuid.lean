import RecordQuery.Text.Hex

/-! # Universally unique identifiers

An identifier is a number of 128 bits. It is written as 32 hexadecimal digits in groups of 8, 4, 4,
4 and 12, and may be read without the groups' hyphens, in braces, or as a resource name.
-/

namespace RecordQuery

structure Uuid where
  value : BitVec 128
  deriving DecidableEq

namespace Uuid

def nil : Uuid := ⟨0⟩

/-- The order of the bytes, the first one leading. -/
def compare (a b : Uuid) : Ordering :=
  Ord.compare a.value.toNat b.value.toNat

/-- The digit with `place` digits after it. -/
def digit (u : Uuid) (place : Nat) : Char :=
  Text.hexDigit (u.value.toNat / Nat.pow 16 place % 16)

/-- All digits, the leading one first. -/
def digits (u : Uuid) : List Char :=
  (List.range 32).map fun i => u.digit (31 - i)

def chars (u : Uuid) : List Char :=
  let ds := u.digits
  ds.take 8 ++ '-' :: (ds.drop 8).take 4 ++ '-' :: (ds.drop 12).take 4 ++
    '-' :: (ds.drop 16).take 4 ++ '-' :: ds.drop 20

def text (u : Uuid) : String :=
  String.ofList u.chars

/-- The identifier with the given 32 digits. -/
def ofDigits? (cs : List Char) : Option Uuid :=
  if cs.length = 32 then (Text.hexFrom? 0 cs).map fun n => ⟨BitVec.ofNat 128 n⟩ else none

/-- Digits in groups with hyphens between them. -/
def ofGroups? (cs : List Char) : Option Uuid :=
  if cs.length = 36 ∧ cs[8]? = some '-' ∧ cs[13]? = some '-' ∧ cs[18]? = some '-' ∧
      cs[23]? = some '-' then
    ofDigits? (cs.take 8 ++ (cs.drop 9).take 4 ++ (cs.drop 14).take 4 ++ (cs.drop 19).take 4 ++
      cs.drop 24)
  else none

/-- The lead of a resource name that holds an identifier. -/
def resourceName : List Char := ['u', 'r', 'n', ':', 'u', 'u', 'i', 'd', ':']

/-- One of the four forms: bare digits, groups, groups in braces, groups after a resource name. -/
def ofChars? (cs : List Char) : Option Uuid :=
  if cs.length = 32 then ofDigits? cs
  else if cs.length = 38 ∧ cs.head? = some '\x7b' ∧ cs.getLast? = some '\x7d' then
    ofGroups? ((cs.drop 1).take 36)
  else if cs.length = 45 ∧ (cs.take 9).map Char.toLower = resourceName then ofGroups? (cs.drop 9)
  else ofGroups? cs

example : ofChars? (nil.chars) = some nil := by decide

end Uuid

end RecordQuery
