import RecordQuery.Pattern.Anchor

/-! # Pattern expressions

An expression says which stretches of a text fit. Sequences and choices are built by `sequence` and
`choice`, which keep them simple: they nest to the right only, neighbouring texts are one text, and
a choice of single characters is a set.
-/

namespace RecordQuery.Pattern

inductive Expr where
  | empty
  /-- These characters, at least one. -/
  | text (cs : List Char)
  | set (s : CharSet)
  | anchor (a : Anchor)
  /-- At least `low` times and at most `high` times, as few as possible if `lazily`. -/
  | repeated (low : Nat) (high : Option Nat) (lazily : Bool) (e : Expr)
  | group (index : Nat) (e : Expr)
  | seq (a b : Expr)
  | alt (a b : Expr)
  deriving DecidableEq

namespace Expr

/-! ### What an expression takes up -/

/-- No stretch that fits has a character. -/
def isZeroWidth : Expr → Bool
  | empty => true
  | text _ => false
  | set _ => false
  | anchor _ => true
  | repeated _ high _ e => high.isSome && e.isZeroWidth
  | group _ e => e.isZeroWidth
  | seq a b => a.isZeroWidth && b.isZeroWidth
  | alt a b => a.isZeroWidth && b.isZeroWidth

/-- Somewhere a character from the empty set is asked for. -/
def hasEmptySet : Expr → Bool
  | set s => s.isEmpty
  | repeated _ _ _ e => e.hasEmptySet
  | group _ e => e.hasEmptySet
  | seq a b => a.hasEmptySet || b.hasEmptySet
  | alt a b => a.hasEmptySet || b.hasEmptySet
  | _ => false

/-- Every stretch that fits has a character. -/
def consumes : Expr → Bool
  | empty => false
  | text _ => true
  | set _ => true
  | anchor _ => false
  | repeated low _ _ e => 0 < low && e.consumes
  | group _ e => e.consumes
  | seq a b => a.consumes || b.consumes
  | alt a b => a.consumes && b.consumes

/-- The anchor holds where a stretch that fits begins. -/
def leadsWith (x : Anchor) : Expr → Bool
  | anchor a => a == x
  | repeated low _ _ e => 0 < low && e.leadsWith x
  | group _ e => e.leadsWith x
  | seq a b => a.leadsWith x || a.isZeroWidth && b.leadsWith x
  | alt a b => a.leadsWith x && b.leadsWith x
  | _ => false

/-- The anchor holds where a stretch that fits ends. -/
def trailsWith (x : Anchor) : Expr → Bool
  | anchor a => a == x
  | repeated low _ _ e => 0 < low && e.trailsWith x
  | group _ e => e.trailsWith x
  | seq a b => b.trailsWith x || b.isZeroWidth && a.trailsWith x
  | alt a b => a.trailsWith x && b.trailsWith x
  | _ => false

/-! ### Building expressions -/

def ofSet (s : CharSet) : Expr :=
  match s.single? with
  | some c => text [c]
  | none => set s

/-- An expression that takes up nothing is repeated once at most. -/
def times (low : Nat) (high : Option Nat) (lazily : Bool) (e : Expr) : Expr :=
  let (low, high) := if e.isZeroWidth then (min low 1, some (min (high.getD 1) 1)) else (low, high)
  if high = some 0 then empty
  else if low = 1 ∧ high = some 1 then e
  else repeated low high lazily e

def items : Expr → List Expr
  | empty => []
  | seq a b => a :: b.items
  | e => [e]

def branches : Expr → List Expr
  | alt a b => a :: b.branches
  | e => [e]

/-- Joins neighbouring texts. -/
def joinTexts : List Expr → List Expr
  | [] => []
  | text cs :: rest => match joinTexts rest with
    | text ds :: rest => text (cs ++ ds) :: rest
    | rest => text cs :: rest
  | e :: rest => e :: joinTexts rest

def ofItems : List Expr → Expr
  | [] => empty
  | [e] => e
  | e :: rest => seq e (ofItems rest)

def ofBranches : List Expr → Expr
  | [] => set .none
  | [e] => e
  | e :: rest => alt e (ofBranches rest)

def sequence (es : List Expr) : Expr :=
  ofItems (joinTexts (es.flatMap items))

def char? : Expr → Option Char
  | text [c] => some c
  | _ => none

def set? : Expr → Option CharSet
  | set s => some s
  | _ => none

/-- The parts of a sequence of at least two. -/
def sequenceItems? : Expr → Option (List Expr)
  | seq a b => some (a :: b.items)
  | _ => none

/-- The longest list that both lists begin with. -/
def commonPrefix : List Expr → List Expr → List Expr
  | a :: as, b :: bs => if a = b then a :: commonPrefix as bs else []
  | _, _ => []

/-- One of several, at most `fuel` beginnings deep. What all begin with stands before the choice. -/
def choiceWithin : Nat → List Expr → Expr
  | 0, es => ofBranches es
  | fuel + 1, es =>
    match es.flatMap branches with
    | [e] => e
    | es =>
      match es.mapM char?, es.mapM set?, es.mapM sequenceItems? with
      | some cs, _, _ => ofSet (.ofList cs)
      | _, some sets, _ => ofSet (.unions sets)
      | _, _, some (first :: others) =>
        let shared := others.foldl commonPrefix first
        if shared.isEmpty then ofBranches es
        else
          let rest := (first :: others).map fun items => sequence (items.drop shared.length)
          sequence (shared ++ [choiceWithin fuel rest])
      | _, _, _ => ofBranches es

def size : Expr → Nat
  | repeated _ _ _ e => e.size + 1
  | group _ e => e.size + 1
  | seq a b => a.size + b.size + 1
  | alt a b => a.size + b.size + 1
  | _ => 1

def choice (es : List Expr) : Expr :=
  choiceWithin (es.foldl (fun total e => total + e.size) 1) es

end Expr

end RecordQuery.Pattern
