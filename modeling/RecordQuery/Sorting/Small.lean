import RecordQuery.Sorting.Insertion

/-! # Sorting small parts

A part of at most 32 elements is halved. The first elements of each half are sorted by a fixed
scheme and the others are inserted. Both halves are then merged from both ends at once, which fails
if the ends do not meet: a comparison that contradicts itself may choose one element at both ends.
-/

namespace RecordQuery.Sorting

variable {α : Type} (less : α → α → Bool)

/-! ### Merging -/

/-- Merges from the beginning. Of two elements that are level the left one comes first. -/
def mergeUp (left right : List α) : List α :=
  left.merge right fun a b => !less b a

/-- Merges from the end. Of two elements that are level the right one comes last. -/
def mergeDown (left right : List α) : List α :=
  (right.reverse.merge left.reverse fun b a => !less b a).reverse

/-- Merges from both ends at once, half of the elements from each. The right list has as many
elements as the left one, or one more that is left over in between. Merging fails if one list would
have to give more elements than it has. -/
def mergeInward (left right : List α) : Option (List α) :=
  let compared (a b : Bool × α) := less a.2 b.2
  let lefts := left.map (true, ·)
  let rights := right.map (false, ·)
  let front := (mergeUp compared lefts rights).take left.length
  let back := (mergeDown compared lefts rights).drop right.length
  let fromLeft := front.countP Prod.fst
  let toLeft := left.length - back.countP Prod.fst
  let fromRight := front.countP fun x => !x.1
  let toRight := right.length - back.countP fun x => !x.1
  if fromLeft ≤ toLeft ∧ fromRight ≤ toRight then
    some (front.map Prod.snd ++ (left.extract fromLeft toLeft ++ right.extract fromRight toRight) ++
      back.map Prod.snd)
  else none

/-! ### Fixed schemes -/

def sortTwo (a b : α) : α × α :=
  if less b a then (b, a) else (a, b)

/-- Merges two sorted pairs. The ends are compared first and what is left in the middle last. -/
def mergePairs (left right : α × α) : List α :=
  let (a, b) := left
  let (c, d) := right
  let rightFirst := less c a
  let leftLast := less d b
  let first := if rightFirst then c else a
  let last := if leftLast then b else d
  let x := if rightFirst then a else if leftLast then c else b
  let y := if leftLast then d else if rightFirst then b else c
  if less y x then [first, y, x, last] else [first, x, y, last]

def sortFour (a b c d : α) : List α :=
  mergePairs less (sortTwo less a b) (sortTwo less c d)

/-! ### Halves -/

/-- Sorts one, four or eight elements. -/
def sortHead : List α → Option (List α)
  | [a, b, c, d] => some (sortFour less a b c d)
  | [a, b, c, d, e, f, g, h] => mergeInward less (sortFour less a b c d) (sortFour less e f g h)
  | xs => some xs

/-- Sorts the first elements by a fixed scheme and inserts the others. -/
def sortHalf (first : Nat) (xs : List α) : Option (List α) :=
  (sortHead less (xs.take first)).map fun sorted => insertAll less sorted (xs.drop first)

/-- Sorts a small part. -/
def sortSmall (xs : List α) : Option (List α) := do
  let first := if xs.length < 8 then 1 else if xs.length < 16 then 4 else 8
  let left ← sortHalf less first (xs.take (xs.length / 2))
  let right ← sortHalf less first (xs.drop (xs.length / 2))
  mergeInward less left right

end RecordQuery.Sorting
