import RecordQuery.Cursor.Codec
import RecordQuery.Paging
import RecordQuery.Source

/-! # Pages by cursor

A page by cursor continues from the sort keys of a boundary record instead of a row number. What a
request can get wrong is found when the pager is made. To tell whether a page is the first or the
last one, its ends are compared with the first and the last row of the whole set.
-/

namespace RecordQuery

/-- Where a page begins. The filter holds of the rows on its side of the boundary. -/
inductive Position where
  | start
  | after (filter : Filter)
  | before (filter : Filter)

structure KeysetPager where
  filter : Filter
  sort : SortOrder
  size : Nat
  position : Position
  codec : Codec

namespace KeysetPager

def effectiveToken (token : Option String) : Option String :=
  token.filter fun token => !Text.isBlank token

/-- The position that the tokens of a request stand for. -/
def readPosition (filter : Filter) (sort : SortOrder) (before after : Option String)
    (codec : Codec) : Except QueryError Position :=
  match effectiveToken before, effectiveToken after with
  | some _, some _ => .error .conflictingCursors
  | none, some token => do
    let boundary ← codec.boundary token sort
    .ok (.after (filter.and (sort.keyset boundary)))
  | some token, none => do
    let boundary ← codec.boundary token sort
    .ok (.before (filter.and (sort.reversed.keyset boundary)))
  | none, none => .ok .start

def create (filter : Filter) (sort : SortOrder) (size : Nat) (before after : Option String)
    (codec : Codec) : Except QueryError KeysetPager :=
  if size = 0 then .error (.invalidPagination .sizeZero)
  else if sort.tieBreaker.isNone then .error (.invalidPagination .noTieBreaker)
  else do
    let position ← readPosition filter sort before after codec
    .ok { filter, sort, size, position, codec }

section Run

variable {m : Type → Type} {α : Type} [Monad m] [Queryable α]

/-- The first row of the whole set in an order. -/
def edge (pager : KeysetPager) (source : Source m α) (base : Fetch) (order : SortOrder) :
    m (Option α) := do
  let rows ← source.fetch
    { base with filter := pager.filter, order := some order, skip := 0, take := some 1 }
  return rows.head?

/-- The rows of the page in forward order. -/
def rows (pager : KeysetPager) (source : Source m α) (base : Fetch) : m (List α) := do
  let request (filter : Filter) (order : SortOrder) : Fetch :=
    { base with filter := filter, order := some order, skip := 0, take := some pager.size }
  match pager.position with
  | .start => source.fetch (request pager.filter pager.sort)
  | .after filter => source.fetch (request filter pager.sort)
  | .before filter => do
    let rows ← source.fetch (request filter pager.sort.reversed)
    return rows.reverse

def level (pager : KeysetPager) (row : α) (other : Option α) : Bool :=
  match other with
  | some other =>
    pager.sort.compare (Queryable.record row) (Queryable.record other) == .eq
  | none => false

def token (pager : KeysetPager) (row : α) : Except QueryError String :=
  pager.codec.encode (.capture (Queryable.record row) pager.sort)

/-- The token of the page before the rows, unless they begin the set. -/
def previous (pager : KeysetPager) (first : Option α) (rows : List α) :
    Except QueryError (Option String) :=
  match pager.position, rows.head? with
  | .start, _ => .ok none
  | _, none => .ok none
  | .after _, some row =>
    if pager.level row first then .ok none else (pager.token row).map some
  | .before _, some row =>
    if rows.length < pager.size || pager.level row first then .ok none
    else (pager.token row).map some

/-- The token of the page after the rows, unless they end the set. -/
def next (pager : KeysetPager) (last : Option α) (rows : List α) :
    Except QueryError (Option String) :=
  match rows.getLast? with
  | none => .ok none
  | some row =>
    let backward := match pager.position with
      | .before _ => true
      | _ => false
    if pager.level row last then .ok none
    else if rows.length < pager.size && !backward then .ok none
    else (pager.token row).map some

def page (pager : KeysetPager) (total : Nat) (first last : Option α) (rows : List α) :
    Except QueryError (Page α) := do
  let previous ← pager.previous first rows
  let next ← pager.next last rows
  .ok ⟨rows, .keyset total pager.size previous next⟩

/-- Fetches the page. `base` says what to load with the rows. -/
def run (pager : KeysetPager) (source : Source m α) (base : Fetch) :
    m (Except QueryError (Page α)) := do
  let total ← source.count pager.filter
  if total = 0 then
    return .ok (.empty (.keyset 0 pager.size none none))
  else do
    let first ← pager.edge source base pager.sort
    let last ← pager.edge source base pager.sort.reversed
    let rows ← pager.rows source base
    return pager.page total first last rows

end Run

end KeysetPager

end RecordQuery
