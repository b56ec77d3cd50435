/-! # Sorting by insertion

A comparison tells which of two elements comes before the other. Stable sorting keeps elements in
their order that it does not tell apart. Inserting each element behind those that it does not come
before is the way for short lists. It gives a list for every comparison, also for one that
contradicts itself; the sorting of longer lists may give up then.
-/

namespace RecordQuery

/-- Inserts an element into a descending list, behind the elements that it does not come before. -/
def insertDescending {α : Type} (less : α → α → Bool) (x : α) : List α → List α
  | [] => [x]
  | y :: ys => if less x y then y :: insertDescending less x ys else x :: y :: ys

/-- Stable sorting by insertion: elements that are level keep their order. On elements that are
compared consistently every stable way of sorting gives this list. -/
def stableSort {α : Type} (less : α → α → Bool) (xs : List α) : List α :=
  (xs.foldl (fun sorted x => insertDescending less x sorted) []).reverse

/-- Inserts the elements of a list into a sorted list, one after the other. -/
def insertAll {α : Type} (less : α → α → Bool) (sorted xs : List α) : List α :=
  (xs.foldl (fun sorted x => insertDescending less x sorted) sorted.reverse).reverse

end RecordQuery
