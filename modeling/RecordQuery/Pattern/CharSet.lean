import RecordQuery.Text.CaseFolding
import RecordQuery.Text.Ranges

/-! # Sets of characters in patterns

A set is a list of ranges of code points, the lowest first, with a gap between any two of them.
-/

namespace RecordQuery.Pattern

structure CharSet where
  ranges : Text.Ranges
  deriving DecidableEq

namespace CharSet

def has (s : CharSet) (c : Char) : Bool :=
  s.ranges.has c

/-! ### Building sets -/

/-- One range from `first` to `last` and those after it, without the gaps that are none. -/
def joinOnto (first last : Nat) : Text.Ranges → Text.Ranges
  | [] => [(first, last)]
  | (next, stop) :: rest =>
    if next ≤ last + 1 then joinOnto first (max last stop) rest
    else (first, last) :: joinOnto next stop rest

/-- The set of ranges that come with the lowest first. -/
def ofSorted : Text.Ranges → CharSet
  | [] => ⟨[]⟩
  | (first, last) :: rest => ⟨joinOnto first last rest⟩

def startsBefore (r s : Nat × Nat) : Bool :=
  r.1 ≤ s.1

def ofRanges (ranges : Text.Ranges) : CharSet :=
  ofSorted (ranges.mergeSort startsBefore)

def ofLines (lines : List String) : CharSet :=
  ofRanges (lines.flatMap Text.Ranges.ofText)

def none : CharSet := ⟨[]⟩

/-- The set of all characters. Surrogates are no characters. -/
def all : CharSet := ⟨[(0, 0xd7ff), (0xe000, 0x10ffff)]⟩

def ascii : CharSet := ⟨[(0, 0x7f)]⟩

def range (first last : Char) : CharSet := ⟨[(first.toNat, last.toNat)]⟩

def single (c : Char) : CharSet := range c c

def ofList (cs : List Char) : CharSet :=
  ofRanges (cs.map fun c => (c.toNat, c.toNat))

/-! ### Operations -/

def union (a b : CharSet) : CharSet :=
  ofSorted (a.ranges.merge b.ranges startsBefore)

def unions (sets : List CharSet) : CharSet :=
  ofRanges (sets.flatMap ranges)

/-- What is left of some ranges without others, both with the lowest first. -/
def subtract : Text.Ranges → Text.Ranges → Text.Ranges
  | [], _ => []
  | kept, [] => kept
  | (first, last) :: kept, (start, stop) :: gone =>
    if stop < first then subtract ((first, last) :: kept) gone
    else if last < start then (first, last) :: subtract kept ((start, stop) :: gone)
    else
      let before := if first < start then [(first, start - 1)] else []
      if last ≤ stop then before ++ subtract kept ((start, stop) :: gone)
      else before ++ subtract ((stop + 1, last) :: kept) gone
termination_by kept gone => kept.length + gone.length

def diff (a b : CharSet) : CharSet :=
  ⟨subtract a.ranges b.ranges⟩

def inter (a b : CharSet) : CharSet :=
  a.diff (a.diff b)

def compl (a : CharSet) : CharSet :=
  all.diff a

def complIf (negated : Bool) (a : CharSet) : CharSet :=
  if negated then a.compl else a

/-! ### Case -/

/-- The set with the characters that have the same case folding as a member. -/
def anyCase (a : CharSet) : CharSet :=
  let folded := Text.foldings.filter fun (code, fold) => a.ranges.holds code || a.ranges.holds fold
  let folds := ofRanges (folded.map fun (_, fold) => (fold, fold))
  let variants := Text.foldings.filter fun (_, fold) => folds.ranges.holds fold
  unions [a, folds, ofRanges (variants.map fun (code, _) => (code, code))]

/-- Like `anyCase`, but only the letters of ASCII have a case. -/
def anyAsciiCase (a : CharSet) : CharSet :=
  let letters := ofRanges [(0x41, 0x5a), (0x61, 0x7a)]
  unions [a, (a.inter letters).anyCase.inter letters]

/-! ### Questions -/

def isEmpty (a : CharSet) : Bool :=
  a.ranges.isEmpty

def isAscii (a : CharSet) : Bool :=
  a.ranges.all (·.2 ≤ 0x7f)

/-- The member of a set with only one. -/
def single? (a : CharSet) : Option Char :=
  match a.ranges with
  | [(first, last)] => if first = last then some (Char.ofNat first) else Option.none
  | _ => Option.none

end CharSet

end RecordQuery.Pattern
