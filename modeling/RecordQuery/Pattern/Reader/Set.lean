import RecordQuery.Pattern.Reader.Escape

/-! # Bracketed sets

Characters, ranges, classes and sets in brackets, with the operations of intersection, difference
and symmetric difference between them.
-/

namespace RecordQuery.Pattern

/-- Items of a bracketed set: their union, their number, and how deep the deepest one nests. -/
structure SetItems where
  set : CharSet := .none
  count : Nat := 0
  depth : Nat := 0

namespace SetItems

def add (items : SetItems) (set : CharSet) (depth : Nat) : SetItems :=
  ⟨items.set.union set, items.count + 1, max items.depth depth⟩

/-- Several items nest one level deeper than their deepest. -/
def nesting (items : SetItems) : Nat :=
  if items.count < 2 then items.depth else items.depth + 1

end SetItems

inductive SetOperation where
  | inter
  | diff
  | symmDiff

def SetOperation.apply : SetOperation → CharSet → CharSet → CharSet
  | inter, a, b => a.inter b
  | diff, a, b => a.diff b
  | symmDiff, a, b => (a.diff b).union (b.diff a)

/-- What stands before the last operation: a set, its nesting and the operation. -/
structure LeftSide where
  set : CharSet
  depth : Nat
  operation : SetOperation

/-- The items after the last operation with all that stands before it, and its nesting. -/
def SetItems.close (items : SetItems) (flags : Flags) : Option LeftSide → CharSet × Nat
  | none => (items.set, items.nesting)
  | some left => (left.operation.apply (flags.fold left.set) (flags.fold items.set),
    max left.depth items.nesting + 1)

namespace Reader

/-- A class of ASCII in brackets and colons, if one comes next. -/
def readAsciiClass? (flags : Flags) : Reader (Option CharSet) := do
  let before ← rest
  if ← accept ['[', ':'] then
    let negated ← accept ['^']
    let (name, after) := (← rest).span (· ≠ ':')
    goOn after
    if ← accept [':', ']'] then
      match Ascii.table.lookup (String.ofList name) with
      | some set => return some (← flags.close? negated set)
      | none => pure ()
  goOn before
  return none

def readMember (flags : Flags) : Reader Escape := do
  let c ← current
  drop
  if c = '\\' then
    match ← readEscape flags with
    | .anchor _ => failure
    | .char c => if flags.ascii && 0x7f < c.toNat then failure else return .char c
    | .set s => return .set s
  else if flags.ascii && 0x7f < c.toNat then failure
  else return .char c

/-- The character after the next one and after blanks. Of a comment only the sign that opens it is
passed. -/
def peekBehind (flags : Flags) : Reader (Option Char) := do
  let after := (← rest).drop 1
  if flags.spaced then
    match after.dropWhile Text.isBlankChar with
    | '#' :: comment => return (comment.dropWhile Text.isBlankChar).head?
    | cs => return cs.head?
  else return after.head?

def readRange (flags : Flags) : Reader CharSet := do
  let first ← readMember flags
  skipBlanks flags
  let isRange := (← current) = '-' ∧ !(← (peekBehind flags)).any fun c => c == ']' || c == '-'
  match first with
  | .char a =>
    if isRange then
      dropWithBlanks flags
      match ← readMember flags with
      | .char b => if a ≤ b then return .range a b else failure
      | _ => failure
    else return .single a
  | .set s => if isRange then failure else return s
  | .anchor _ => failure

/-- The items of a set that may stand in front without a meaning of their own: hyphens, or a closing
bracket. -/
def readFront (flags : Flags) : Reader SetItems := do
  let dashes ← span flags (· = '-')
  if dashes.isEmpty then
    if (← current) = ']' then
      dropWithBlanks flags
      return ({} : SetItems).add (.single ']') 0
    else return {}
  else return ⟨.single '-', dashes.length, 0⟩

def acceptOperation : Reader (Option SetOperation) := do
  if ← accept ['&', '&'] then return some .inter
  else if ← accept ['-', '-'] then return some .diff
  else if ← accept ['~', '~'] then return some .symmDiff
  else return none

mutual

/-- A bracketed set from its opening bracket on, with its nesting. -/
def readSet (flags : Flags) : Nat → Reader (CharSet × Nat)
  | 0 => failure
  | fuel + 1 => do
    dropWithBlanks flags
    let negated := (← current) = '^'
    if negated then dropWithBlanks flags
    let front ← readFront flags
    let (set, depth) ← readItems flags none front fuel
    return (← flags.close? negated set, depth + 1)

/-- The items of a set up to its closing bracket. -/
def readItems (flags : Flags) (left : Option LeftSide) (items : SetItems) :
    Nat → Reader (CharSet × Nat)
  | 0 => failure
  | fuel + 1 => do
    skipBlanks flags
    match ← current with
    | '[' => match ← readAsciiClass? flags with
      | some set => readItems flags left (items.add set 0) fuel
      | none =>
        let (set, depth) ← readSet flags fuel
        readItems flags left (items.add set depth) fuel
    | ']' =>
      drop
      return items.close flags left
    | _ => match ← acceptOperation with
      | some operation =>
        let (set, depth) := items.close flags left
        readItems flags (some ⟨set, depth, operation⟩) {} fuel
      | none =>
        let set ← readRange flags
        readItems flags left (items.add set 0) fuel

end

end Reader

end RecordQuery.Pattern
