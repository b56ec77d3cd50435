import RecordQuery.Sorting.Small

/-! # Sorting by runs

A list is cut into runs. A stretch that is sorted as it stands, or strictly descending, is a run if
it is long enough. Elsewhere a run is a small part that is sorted at once, or a part that is left
unsorted for now. Neighbouring runs are joined along a balanced tree over the whole list.
-/

namespace RecordQuery.Sorting

/-- A stretch of a list, sorted or still to be sorted. -/
structure Run (α : Type) where
  rows : List α
  sorted : Bool

variable {α : Type} (less : α → α → Bool)

/-! ### Finding runs -/

/-- How many elements follow one that each pass a test against the element before. -/
def climb (test : α → α → Bool) (before : α) : List α → Nat
  | [] => 0
  | x :: xs => if test x before then climb test x xs + 1 else 0

/-- The length of the run that a list begins with, and whether it is descending. -/
def runLength : List α → Nat × Bool
  | [] => (0, false)
  | x :: xs =>
    if xs.head?.any (less · x) then (climb less x xs + 1, true)
    else (climb (fun b a => !less b a) x xs + 1, false)

/-- The length from which on a run in a list of that length counts as it stands. -/
def goodLength (length : Nat) : Nat :=
  if length ≤ 4096 then min (length - length / 2) 64
  else
    let shift := (1 + length.log2) / 2
    (Nat.pow 2 shift + length / Nat.pow 2 shift) / 2

/-- The first run of a list. A run that is too short is made longer, by sorting a small part at once
if sorting is eager. -/
def firstRun (eager : Bool) (good : Nat) (xs : List α) : Option (Run α) :=
  let (length, descending) := runLength less xs
  if good ≤ length then
    some ⟨if descending then (xs.take length).reverse else xs.take length, true⟩
  else if eager then (sortSmall less (xs.take 32)).map fun rows => ⟨rows, true⟩
  else some ⟨xs.take good, false⟩

/-- All runs of a list. -/
def runs (eager : Bool) (good : Nat) : List α → Option (List (Run α))
  | [] => some []
  | x :: xs => do
    let run ← firstRun less eager good (x :: xs)
    let others ← runs eager good (xs.drop (run.rows.length - 1))
    some (run :: others)
termination_by xs => xs.length
decreasing_by
  rw [List.length_drop, List.length_cons]
  omega

/-! ### Joining runs -/

/-- Merges two sorted lists from the end at which the shorter one stands. -/
def mergeRuns (left right : List α) : List α :=
  if left.length ≤ right.length then mergeUp less left right else mergeDown less left right

section Join

variable (finish : List α → Option (List α)) (space : Nat)

/-- The sorted rows of a run. -/
def Run.settle (run : Run α) : Option (List α) :=
  if run.sorted then some run.rows else finish run.rows

/-- Joins neighbouring runs. Unsorted runs stay unsorted as long as they fit into the space that
there is for sorting them together. -/
def Run.join (left right : Run α) : Option (Run α) :=
  if left.sorted || right.sorted || space < left.rows.length + right.rows.length then do
    let before ← left.settle finish
    let behind ← right.settle finish
    some ⟨mergeRuns less before behind, true⟩
  else some ⟨left.rows ++ right.rows, false⟩

/-- The depth in the tree at which two neighbouring runs are joined, by the places at which they
begin, meet and end: 64 less the length of the number in binary in which the scaled midpoints of
both differ. -/
def treeDepth (length start middle stop : Nat) : Nat :=
  let scale := (Nat.pow 2 62 + length - 1) / length
  let difference := (scale * (start + middle)) ^^^ (scale * (middle + stop))
  if difference = 0 then 64 else 63 - difference.log2

/-- Joins a run with those before it that are joined at a greater depth or the same. -/
def collapse (depth : Nat) : List (Run α × Nat) → Run α → Option (List (Run α × Nat) × Run α)
  | [], run => some ([], run)
  | (before, level) :: stack, run =>
    if depth ≤ level then do
      let joined ← before.join less finish space run
      collapse depth stack joined
    else some ((before, level) :: stack, run)

/-- Joins all runs of a list. The stack holds the runs before the current one that wait, the last
one first, with the depths at which they are joined to what follows. -/
def joinRuns (length : Nat) :
    Nat → List (Run α × Nat) → Run α → List (Run α) → Option (Run α)
  | _, stack, run, [] => (collapse less finish space 0 stack run).map Prod.snd
  | middle, stack, run, next :: others => do
    let stop := middle + next.rows.length
    let depth := treeDepth length (middle - run.rows.length) middle stop
    let (stack, joined) ← collapse less finish space depth stack run
    joinRuns length stop ((joined, depth) :: stack) next others

/-- The number of elements that can be sorted together in a list of that length. -/
def sortingSpace (length : Nat) : Nat :=
  max 512 (max (length - length / 2) (min length 1000000))

/-- Sorts a list by its runs. What is left unsorted is finished in another way. -/
def sortRuns (eager : Bool) (xs : List α) : Option (List α) := do
  match ← runs less eager (goodLength xs.length) xs with
  | [] => some []
  | run :: others =>
    let whole ← joinRuns less finish (sortingSpace xs.length) xs.length run.rows.length [] run others
    whole.settle finish

end Join

end RecordQuery.Sorting
