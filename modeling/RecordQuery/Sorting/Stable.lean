import RecordQuery.Sorting.Runs

/-! # Stable sorting

Lists of at most 20 elements are sorted by insertion and longer ones by their runs. Parts that are
left unsorted are partitioned around a pivot. On elements that are compared consistently the outcome
is the one list that is sorted and stable. A comparison that contradicts itself may be noticed while
a small part is merged, and then sorting fails; else it gives the elements in some order.
-/

namespace RecordQuery.Sorting

variable {α : Type} (less : α → α → Bool)

/-! ### Pivots -/

/-- Whether the element at one place comes before that at another one. -/
def lessAt (xs : List α) (i j : Nat) : Bool :=
  match xs[i]?, xs[j]? with
  | some a, some b => less a b
  | _, _ => false

/-- The place of the median of three elements. -/
def median (xs : List α) (i j k : Nat) : Nat :=
  if lessAt less xs i j = lessAt less xs i k then
    if lessAt less xs j k = lessAt less xs i j then j else k
  else i

/-- A place near that of the median of three stretches of one length. -/
def medianOfStretches (xs : List α) (length i j k : Nat) : Nat :=
  if 8 ≤ length then
    let part := length / 8
    median less xs
      (medianOfStretches xs part i (i + part * 4) (i + part * 7))
      (medianOfStretches xs part j (j + part * 4) (j + part * 7))
      (medianOfStretches xs part k (k + part * 4) (k + part * 7))
  else median less xs i j k
termination_by length

def pivotPlace (xs : List α) : Nat :=
  let part := xs.length / 8
  if xs.length < 64 then median less xs 0 (part * 4) (part * 7)
  else medianOfStretches less xs part 0 (part * 4) (part * 7)

/-! ### Partitions -/

/-- The elements that pass a test and the others. The side of the element at one place is given. -/
def partitionAt (test : α → Bool) (place : Nat) (side : Bool) (xs : List α) : List α × List α :=
  let (yes, no) := xs.zipIdx.partition fun (x, i) => if i = place then side else test x
  (yes.map Prod.fst, no.map Prod.fst)

/-- Sorts a part by partitioning it around a pivot, as often as the limit allows. The ancestor is
the last pivot that comes before no element of the part. A pivot that is level with it begins the
part with all elements level with it, and so does one that no element comes before. -/
def quicksort : Nat → Option α → List α → Option (List α)
  | limit, ancestor, xs =>
    if xs.length ≤ 32 then sortSmall less xs
    else match limit, xs[pivotPlace less xs]? with
      | limit + 1, some pivot =>
        let place := pivotPlace less xs
        let (below, others) := partitionAt (less · pivot) place false xs
        if ancestor.any (fun a => !less a pivot) || below.isEmpty then
          let (level, above) := partitionAt (fun x => !less pivot x) place true xs
          (quicksort limit none above).map (level ++ ·)
        else do
          let others ← quicksort limit (some pivot) others
          let below ← quicksort limit ancestor below
          some (below ++ others)
      | _, _ => sortRuns less some true xs

/-- Stable sorting; none if the comparison is noticed to contradict itself. -/
def sort? (xs : List α) : Option (List α) :=
  if xs.length ≤ 20 then some (stableSort less xs)
  else sortRuns less (fun part => quicksort less (2 * part.length.log2) none part)
    (xs.length ≤ 64) xs

end RecordQuery.Sorting
