import RecordQuery.Text.LowerCase.Table
import RecordQuery.Text.Class.Casing

/-! # Lower-casing

The full Unicode lower-casing of a text. It works character by character with two exceptions to
the simple mapping: a capital I with a dot above becomes two characters, and a capital sigma takes
its final form at the end of a word.
-/

namespace RecordQuery.Text

/-- The first character that is not case-ignorable is cased. -/
def meetsCased (cs : List Char) : Bool :=
  match cs.dropWhile caseIgnorable.has with
  | c :: _ => cased.has c
  | [] => false

/-- A sigma is final when a cased letter comes before it and none after it, case-ignorable
characters aside. `before` lists the preceding characters, nearest first. -/
def lowerSigma (before after : List Char) : Char :=
  if meetsCased before && !meetsCased after then 'ς' else 'σ'

/-- The lower-case form of one character outside any context. -/
def lowerChar (c : Char) : List Char :=
  if c.toNat < 0x80 then [c.toLower]
  else if c = 'İ' then ['i', Char.ofNat 0x307]
  else [Char.ofNat (mapThrough lowerRuns c.toNat)]

/-- Lower-cases what follows `before`, the preceding characters with the nearest first. -/
def lowerFrom (before : List Char) : List Char → List Char
  | [] => []
  | c :: after =>
    (if c = 'Σ' then [lowerSigma before after] else lowerChar c) ++ lowerFrom (c :: before) after

def lowerChars (cs : List Char) : List Char :=
  lowerFrom [] cs

def lower (s : String) : String :=
  String.ofList (lowerChars s.toList)

end RecordQuery.Text
