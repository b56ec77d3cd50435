import RecordQuery.SortOrder
import RecordQuery.Sorting.Stable

/-! # Sources of records

A source counts the rows that satisfy a filter and fetches them in order, a window at a time. It
runs in a monad of its own, so that it may fail or keep a log.
-/

namespace RecordQuery

/-- Rows that are read as records. -/
class Queryable (α : Type) where
  record : α → Record

instance : Queryable Record := ⟨id⟩

/-- Which rows to fetch, in which order, and which window of them. -/
structure Fetch where
  filter : Filter
  order : Option SortOrder
  skip : Nat
  /-- Everything after the skipped rows when absent. -/
  take : Option Nat
  includes : List String
  noTracking : Bool
  splitQuery : Bool

structure Source (m : Type → Type) (α : Type) where
  count : Filter → m Nat
  fetch : Fetch → m (List α)

namespace Source

variable {α : Type} [Queryable α]

/-- The comparison by which an order sorts rows. -/
def precedes (order : SortOrder) (a b : α) : Bool :=
  order.compare (Queryable.record a) (Queryable.record b) == .lt

/-- The rows in the order that is asked for, or none if sorting them fails. -/
def arrange? (order : Option SortOrder) (rows : List α) : Option (List α) :=
  match order with
  | some order => Sorting.sort? (precedes order) rows
  | none => some rows

/-- The rows in the order that is asked for, where sorting does not fail. -/
def arrange (order : Option SortOrder) (rows : List α) : List α :=
  match order with
  | some order => stableSort
      (fun a b => order.compare (Queryable.record a) (Queryable.record b) == .lt) rows
  | none => rows

def window (skip : Nat) (take : Option Nat) (rows : List α) : List α :=
  match take with
  | some n => (rows.drop skip).take n
  | none => rows.drop skip

def select (filter : Filter) (rows : List α) : List α :=
  rows.filter fun row => filter.accepts (Queryable.record row)

/-- Rows in memory. A fetch fails where its rows contradict each other in the order that is asked
for and sorting notices it. -/
def inMemory (rows : List α) : Source Option α where
  count filter := some (select filter rows).length
  fetch request :=
    (arrange? request.order (select request.filter rows)).map (window request.skip request.take)

/-- Rows in memory that do not contradict each other in any order, so that every fetch succeeds. -/
def ofList (rows : List α) : Source Id α where
  count filter := (select filter rows).length
  fetch request :=
    window request.skip request.take (arrange request.order (select request.filter rows))

end Source

/-! ### Recording -/

inductive Call where
  | count (filter : Filter)
  | fetch (request : Fetch)

structure Offline where

/-- Calls are logged in order, and they may fail. -/
abbrev RecordedIn (m : Type → Type) := ExceptT Offline (StateT (List Call) m)

/-- The log of a source that answers every call. -/
abbrev Recorded := RecordedIn Id

variable {m : Type → Type} [Monad m]

/-- Logs a call. It fails when `served` calls were logged before. -/
def RecordedIn.call (served : Nat) (call : Call) : RecordedIn m Unit := do
  let log ← get
  set (log ++ [call])
  if served ≤ log.length then throw ⟨⟩

/-- A source that logs its calls and fails all of them after the first `served` ones. -/
def Source.recorded {α : Type} (served : Nat) (source : Source m α) : Source (RecordedIn m) α where
  count filter := do
    RecordedIn.call served (.count filter)
    source.count filter
  fetch request := do
    RecordedIn.call served (.fetch request)
    source.fetch request

end RecordQuery
