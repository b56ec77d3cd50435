import RecordQuery.Json.Shape
import RecordQuery.Json.Writer
import RecordQuery.Text.Blank

/-! # Requests

What callers send: filter, search, sort and paging in one document, or the parameters of a page
alone. Each request is read from a JSON tree and has a JSON form with its fields in order.
-/

namespace RecordQuery

open Json (Tree)

/-- The text member of an object, left out when there is none. -/
def Json.textMember (name : String) : Option String → List (String × Json)
  | some s => [(name, .text s)]
  | none => []

/-! ### Positions -/

/-- The tokens of an earlier page. -/
structure CursorPosition where
  before : Option String := none
  after : Option String := none
  deriving DecidableEq

namespace CursorPosition

def ofTree? (tree : Tree) : Option CursorPosition := do
  match ← tree.fields? ["before", "after"] with
  | [before, after] =>
    let before ← Tree.orDefault before none (Tree.nullable Tree.string?)
    let after ← Tree.orDefault after none (Tree.nullable Tree.string?)
    some { before, after }
  | _ => none

def toJson (position : CursorPosition) : Json :=
  .object (Json.textMember "before" position.before ++ Json.textMember "after" position.after)

end CursorPosition

/-! ### Search -/

structure SearchRequest where
  keyword : Option String := none
  /-- The paths to search; all reachable text fields when absent. -/
  targets : Option (List String) := none
  depth : Option Int := none
  deriving DecidableEq

namespace SearchRequest

def ofTree? (tree : Tree) : Option SearchRequest := do
  match ← tree.fields? ["keyword", "targets", "depth"] with
  | [keyword, targets, depth] =>
    let keyword ← Tree.orDefault keyword none (Tree.nullable Tree.string?)
    let targets ← Tree.orDefault targets none (Tree.nullable (Tree.list? Tree.string?))
    let depth ← Tree.orDefault depth none (Tree.nullable Tree.int32?)
    some { keyword, targets, depth }
  | _ => none

def toJson (request : SearchRequest) : Json :=
  .object <| Json.textMember "keyword" request.keyword
    ++ (match request.targets with
      | some targets => [("targets", .array (targets.map .text))]
      | none => [])
    ++ (match request.depth with
      | some depth => [("depth", .ofInt depth)]
      | none => [])

def effectiveKeyword (request : SearchRequest) : Option String :=
  request.keyword.filter fun keyword => !Text.isBlank keyword

end SearchRequest

/-! ### Pages -/

/-- A page by its number, counted from 1. -/
structure OffsetRequest where
  page : Nat
  pageSize : Nat
  deriving DecidableEq

namespace OffsetRequest

def ofTree? (tree : Tree) : Option OffsetRequest := do
  match ← tree.fields? ["page", "pageSize"] with
  | [some page, some pageSize] =>
    let page ← page.natural?
    let pageSize ← pageSize.natural?
    some { page, pageSize }
  | _ => none

def toJson (request : OffsetRequest) : Json :=
  .object [("page", .ofNat request.page), ("pageSize", .ofNat request.pageSize)]

end OffsetRequest

/-- A page before or after a cursor. The tie-breaker names a field with distinct values. -/
structure CursorRequest where
  before : Option String := none
  after : Option String := none
  size : Nat := 0
  sort : Option String := none
  uniqueSort : String := ""
  deriving DecidableEq

namespace CursorRequest

def ofTree? (tree : Tree) : Option CursorRequest := do
  match ← tree.fields? ["before", "after", "size", "sort", "uniqueSort"] with
  | [before, after, size, sort, uniqueSort] =>
    let before ← Tree.orDefault before none (Tree.nullable Tree.string?)
    let after ← Tree.orDefault after none (Tree.nullable Tree.string?)
    let size ← Tree.orDefault size 0 Tree.natural?
    let sort ← Tree.orDefault sort none (Tree.nullable Tree.string?)
    let uniqueSort ← Tree.orDefault uniqueSort "" Tree.string?
    some { before, after, size, sort, uniqueSort }
  | _ => none

def toJson (request : CursorRequest) : Json :=
  .object <| Json.textMember "before" request.before ++ Json.textMember "after" request.after
    ++ [("size", .ofNat request.size)] ++ Json.textMember "sort" request.sort
    ++ [("uniqueSort", .text request.uniqueSort)]

def moveTo (request : CursorRequest) (position : CursorPosition) : CursorRequest :=
  { request with before := position.before, after := position.after }

end CursorRequest

/-! ### Queries -/

/-- A whole query. A cursor switches from numbered pages to pages by cursor, and a page size of
zero stands for the configured default. -/
structure QueryRequest where
  page : Nat := 1
  pageSize : Nat := 0
  cursor : Option CursorPosition := none
  search : Option SearchRequest := none
  sort : Option String := none
  filter : Option Json := none

namespace QueryRequest

/-- A filter document is nested one level deep in its request. -/
def readFilter (tree : Tree) : Option Json :=
  tree.toJson? (Json.depthLimit - 1)

def ofTree? (tree : Tree) : Option QueryRequest := do
  match ← tree.fields? ["page", "pageSize", "cursor", "search", "sort", "filter"] with
  | [page, pageSize, cursor, search, sort, filter] =>
    let page ← Tree.orDefault page 1 Tree.natural?
    let pageSize ← Tree.orDefault pageSize 0 Tree.natural?
    let cursor ← Tree.orDefault cursor none (Tree.nullable CursorPosition.ofTree?)
    let search ← Tree.orDefault search none (Tree.nullable SearchRequest.ofTree?)
    let sort ← Tree.orDefault sort none (Tree.nullable Tree.string?)
    let filter ← Tree.orDefault filter none (Tree.nullable readFilter)
    some { page, pageSize, cursor, search, sort, filter }
  | _ => none

def toJson (request : QueryRequest) : Json :=
  .object <| [("page", .ofNat request.page), ("pageSize", .ofNat request.pageSize)]
    ++ (match request.cursor with
      | some position => [("cursor", position.toJson)]
      | none => [])
    ++ (match request.search with
      | some search => [("search", search.toJson)]
      | none => [])
    ++ Json.textMember "sort" request.sort
    ++ (match request.filter with
      | some document => [("filter", document)]
      | none => [])

def offset (request : QueryRequest) : OffsetRequest :=
  ⟨request.page, request.pageSize⟩

/-- The page by cursor of the query, if it has a cursor. -/
def cursorRequest? (request : QueryRequest) (tieBreaker : String) : Option CursorRequest :=
  request.cursor.map fun position =>
    { before := position.before, after := position.after, size := request.pageSize,
      sort := request.sort, uniqueSort := tieBreaker }

def isDefault (request : QueryRequest) : Bool :=
  request.page == 1 && request.pageSize == 0 && request.cursor.isNone && request.search.isNone &&
    request.sort.isNone && request.filter.isNone

end QueryRequest

end RecordQuery
