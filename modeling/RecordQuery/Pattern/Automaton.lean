import RecordQuery.Pattern.Expr
import RecordQuery.Text.Utf8
import Std.Data.HashMap

/-! # The size of the automaton of a pattern

A pattern is a program for an automaton that reads UTF-8. A pattern whose automaton takes more than
`sizeLimit` bytes, for reading forward or backward, is refused, so this module counts the states.
A state takes 32 bytes, each of its byte ranges 8 and each of its branches 4.
-/

namespace RecordQuery.Pattern

/-- The states so far, and the bytes of their ranges and branches. -/
structure Tally where
  states : Nat := 0
  extra : Nat := 0

/-- The most bytes that an automaton may take. -/
def sizeLimit : Nat := 10485760

/-- Counting ends without a result beyond the limit. -/
abbrev Counting := StateT Tally Option

inductive Direction where
  | forward
  | backward
  deriving DecidableEq

namespace Counting

def enter (tally : Tally) : Counting Unit :=
  if 32 * tally.states + tally.extra ≤ sizeLimit then set tally else failure

/-- Adds a state, and gives its number. -/
def state (extra : Nat) : Counting Nat := do
  let tally ← get
  enter ⟨tally.states + 1, tally.extra + extra⟩
  return tally.states

def states (count : Nat) : Counting Unit := do
  let tally ← get
  enter ⟨tally.states + count, tally.extra⟩

/-- Adds branches to states that are there already. -/
def branches (count : Nat) : Counting Unit := do
  let tally ← get
  enter ⟨tally.states, tally.extra + 4 * count⟩

/-- Goes on from a state. If that is one with branches, it gets one more. -/
def link (branching : Bool) : Counting Unit :=
  if branching then branches 1 else pure ()

end Counting

open Counting

/-! ### Sets -/

/-- The place of a key in a table of limited size, by the hash of Fowler, Noll and Vo. -/
def tableSlot (size : Nat) (key : List Nat) : Nat :=
  let hash := key.foldl (fun (h : UInt64) n => (h ^^^ n.toUInt64) * 1099511628211)
    14695981039346656037
  hash.toNat % size

/-- States that can be shared, under their places. A state gives way to the next one with the same
place. -/
abbrev Shared := Std.HashMap Nat (List Nat × Nat)

/-- The shared state with a key, or a new one. -/
def shareState (size extra : Nat) (key : List Nat) (known : Shared) : Counting (Nat × Shared) := do
  let slot := tableSlot size key
  match known[slot]?.filter (·.1 == key) with
  | some (_, id) => return (id, known)
  | none =>
    let id ← state extra
    return (id, known.insert slot (key, id))

def CharSet.sequences (s : CharSet) : List (List Text.Utf8.ByteRange) :=
  s.ranges.flatMap fun (first, last) => Text.Utf8.sequences first last

/-- The tree of sequences that begin alike, at most `depth` bytes long, with equal branches shared.
The sequences end in the state `target`. -/
def countTree (target : Nat) : Nat → List (List Text.Utf8.ByteRange) →
    StateT Shared Counting Nat
  | 0, _ => pure target
  | depth + 1, sequences => do
    let alike (a b : List Text.Utf8.ByteRange) : Bool := a.head? == b.head?
    let links ← (sequences.splitBy alike).mapM fun group => do
      let rest := group.map List.tail
      let next ← if rest.all List.isEmpty then pure target else countTree target depth rest
      let (first, last) := (group.head?.bind List.head?).getD (0, 0)
      return [first, last, next]
    fun known => shareState 10000 (8 * links.length) links.flatten known

/-- Chains of bytes from the end of the sequences, with equal ends shared. -/
def countChain (target : Nat) (sequence : List Text.Utf8.ByteRange) :
    StateT Shared Counting Unit := do
  let before (next : Nat) : Text.Utf8.ByteRange → StateT Shared Counting Nat
    | (first, last) => shareState 1000 0 [next, first, last]
  let _ ← sequence.foldlM before target
  fun known => do
    branches 1
    return ((), known)

def countSet (direction : Direction) (s : CharSet) : Counting Unit := do
  if s.isAscii then
    states 1
    let _ ← state (8 * s.ranges.length)
  else match direction with
    | .forward =>
      let target ← state 0
      let _ ← (countTree target 4 s.sequences).run {}
    | .backward =>
      states 1
      let target ← state 0
      let _ ← (s.sequences.forM (countChain target)).run {}

/-! ### Choices of texts -/

/-- The stretches between the empty words, one more than there are of these. -/
def splitAtEmpty : List (List UInt8) → List (List (List UInt8))
  | [] => [[]]
  | [] :: rest => [] :: splitAtEmpty rest
  | word :: rest => match splitAtEmpty rest with
    | stretch :: others => (word :: stretch) :: others
    | [] => [[word]]

/-- Of several empty words in front only one counts. -/
def dropRepeatedEmpty (words : List (List UInt8)) : List (List UInt8) :=
  let later := words.dropWhile List.isEmpty
  if later.length < words.length then [] :: later else words

/-- The states of the tree of words, at most `depth` bytes long, below one of its nodes. A word that
ends at the node parts those before it from those after it. -/
def countWords : Nat → List (List UInt8) → Counting Unit
  | 0, _ => pure ()
  | depth + 1, words => do
    let stretches := splitAtEmpty (dropRepeatedEmpty words)
    stretches.forM fun stretch => do
      let bytes := (stretch.filterMap List.head?).eraseDups
      bytes.forM fun byte => do
        let rest := (stretch.filter (·.head? == some byte)).map List.tail
        if rest.all List.isEmpty then pure () else countWords depth rest
      match bytes with
      | [] => pure ()
      | [_] => states 1
      | bytes => let _ ← state (8 * bytes.length)
    let _ ← state (4 * (stretches.length - 1 + (stretches.filter (!·.isEmpty)).length))

/-- The states for one of several words. -/
def countWordChoice (direction : Direction) (words : List (List Char)) : Counting Unit := do
  let bytes := words.map fun word => (String.ofList word).toUTF8.toList
  let bytes := if direction = .backward then bytes.map List.reverse else bytes
  states 1
  countWords ((bytes.map List.length).foldl max 0) bytes

/-! ### Expressions

Each count says whether the last state has branches.
-/

/-- `count` times the same after a state, each linked to the next one. -/
def countAgain (one : Counting Bool) (branching : Bool) : Nat → Counting Bool
  | 0 => return branching
  | count + 1 => do
    let last ← one
    link branching
    countAgain one last count

/-- `count` times the same. -/
def countCopies (one : Counting Bool) : Nat → Counting Bool
  | 0 => do
    states 1
    return false
  | count + 1 => do
    let branching ← one
    countAgain one branching count

/-- One after another, the last one first when the automaton reads backward. -/
def countPair (direction : Direction) (first second : Counting Bool) : Counting Bool :=
  match direction with
  | .forward => do
    let branching ← first
    let last ← second
    link branching
    return last
  | .backward => do
    let branching ← second
    let last ← first
    link branching
    return last

/-- A state with branches that stand for going on and for leaving off, and then the repeated
expression, `count` times. -/
def countOptional (one : Counting Bool) (branching : Bool) : Nat → Counting Bool
  | 0 => return branching
  | count + 1 => do
    states 1
    let last ← one
    link branching
    branches 2
    countOptional one last count

/-- At least `low` times. `nonempty` says that it takes up a character each time. -/
def countAtLeast (one : Counting Bool) (nonempty : Bool) : Nat → Counting Bool
  | 0 => do
    if nonempty then
      states 1
      let branching ← one
      branches 1
      link branching
      return true
    else
      let branching ← one
      states 3
      link branching
      branches 4
      return false
  | 1 => do
    let branching ← one
    states 1
    link branching
    branches 1
    return true
  | low + 2 => do
    let before ← countCopies one (low + 1)
    let branching ← one
    states 1
    link before
    link branching
    branches 1
    return true

def countRepeated (one : Counting Bool) (nonempty : Bool) (low : Nat) :
    Option Nat → Counting Bool
  | none => countAtLeast one nonempty low
  | some high =>
    if low = 0 ∧ high = 1 then do
      states 1
      let branching ← one
      states 1
      branches 2
      link branching
      return false
    else if low = high then countCopies one low
    else do
      let branching ← countCopies one low
      states 1
      let last ← countOptional one branching (high - low)
      link last
      return false

/-- The words of a choice of nothing else. -/
def Expr.words? (e : Expr) : Option (List (List Char)) :=
  e.branches.mapM fun
    | text cs => some cs
    | _ => none

mutual

def count (direction : Direction) : Expr → Counting Bool
  | .empty => do
    states 1
    return false
  | .text cs => do
    states (String.ofList cs).utf8ByteSize
    return false
  | .set s => do
    countSet direction s
    return false
  | .anchor _ => do
    states 1
    return false
  | .repeated low high _ e =>
    countRepeated (count direction e) (e.consumes && !e.hasEmptySet) low high
  | .group _ e => match direction with
    | .forward => do
      states 1
      let branching ← count direction e
      states 1
      link branching
      return false
    | .backward => count direction e
  | .seq a b => countPair direction (count direction a) (count direction b)
  | .alt a b => do
    match (Expr.alt a b).words? with
    | some words => countWordChoice direction words
    | none =>
      let branching ← count direction a
      countSecond direction branching b
    return false
termination_by e => (sizeOf e, 0)

/-- The second branch of a choice and those after it. Only then come the states at the two ends of
the choice. -/
def countSecond (direction : Direction) (first : Bool) : Expr → Counting Unit
  | .alt b c => do
    let second ← count direction b
    states 2
    branches 2
    link first
    link second
    countLater direction c
  | e => do
    let second ← count direction e
    states 2
    branches 2
    link first
    link second
termination_by e => (sizeOf e, 1)

/-- The third branch of a choice and those after it. -/
def countLater (direction : Direction) : Expr → Counting Unit
  | .alt b c => do
    let branching ← count direction b
    branches 1
    link branching
    countLater direction c
  | e => do
    let branching ← count direction e
    branches 1
    link branching
termination_by e => (sizeOf e, 1)

end

/-- The states of a pattern. One that does not have to begin at the start of the text has a loop
over all bytes in front, and there are two states for the ends of the match when reading forward. -/
def countPattern (direction : Direction) (e : Expr) : Counting Unit := do
  let anchored := match direction with
    | .forward => e.leadsWith .textStart
    | .backward => e.trailsWith .textEnd
  if anchored then states 1
  else
    states 2
    branches 2
    let _ ← state 8
  let branching ← count direction (.group 0 e)
  states 1
  link branching

/-- The automata of the expression stay within the limit. -/
def Expr.fits (e : Expr) : Bool :=
  ((countPattern .forward e).run {}).isSome && ((countPattern .backward e).run {}).isSome

end RecordQuery.Pattern
