import RecordQuery.Error
import RecordQuery.Json.Shape

/-! # Pages

A page has its rows and the metadata that lead to other pages: the number of pages, whether there
is a next and a previous one, and the tokens of cursors.
-/

namespace RecordQuery

open Json (Tree)

/-- The number of values of a machine word. -/
def wordCount : Nat := 0x10000000000000000

structure Paging where
  pageSize : Nat
  totalPage : Nat
  currentPage : Option Nat := none
  hasNextPage : Bool
  hasPreviousPage : Bool
  before : Option String := none
  after : Option String := none
  deriving DecidableEq

namespace Paging

/-- The number of pages that hold all rows. -/
def totalPages (total pageSize : Nat) : Nat :=
  if pageSize = 0 then 0 else (total + pageSize - 1) / pageSize

def offset (total page pageSize : Nat) : Paging where
  pageSize := pageSize
  totalPage := totalPages total pageSize
  currentPage := some page
  hasNextPage := page < totalPages total pageSize
  hasPreviousPage := 1 < page

/-- The metadata of a page by cursor: the tokens tell whether there are other pages. -/
def keyset (total pageSize : Nat) (before after : Option String) : Paging where
  pageSize := pageSize
  totalPage := totalPages total pageSize
  hasNextPage := after.isSome
  hasPreviousPage := before.isSome
  before := before
  after := after

def ofTree? (tree : Tree) : Option Paging := do
  match ← tree.fields? ["pageSize", "totalPage", "currentPage", "hasNextPage", "hasPreviousPage",
    "before", "after"] with
  | [some pageSize, some totalPage, currentPage, some hasNextPage, some hasPreviousPage,
      before, after] =>
    let pageSize ← pageSize.natural?
    let totalPage ← totalPage.natural?
    let currentPage ← Tree.orDefault currentPage none (Tree.nullable Tree.natural?)
    let hasNextPage ← hasNextPage.flag?
    let hasPreviousPage ← hasPreviousPage.flag?
    let before ← Tree.orDefault before none (Tree.nullable Tree.string?)
    let after ← Tree.orDefault after none (Tree.nullable Tree.string?)
    some { pageSize, totalPage, currentPage, hasNextPage, hasPreviousPage, before, after }
  | _ => none

def toJson (paging : Paging) : Json :=
  .object <| [("pageSize", .ofNat paging.pageSize), ("totalPage", .ofNat paging.totalPage)]
    ++ (match paging.currentPage with
      | some page => [("currentPage", .ofNat page)]
      | none => [])
    ++ [("hasNextPage", .bool paging.hasNextPage), ("hasPreviousPage", .bool paging.hasPreviousPage),
      ("before", .ofText? paging.before), ("after", .ofText? paging.after)]

end Paging

structure Page (α : Type) where
  data : List α
  paging : Paging

namespace Page

variable {α β : Type}

def empty (paging : Paging) : Page α := ⟨[], paging⟩

def map (f : α → β) (page : Page α) : Page β := ⟨page.data.map f, page.paging⟩

/-- A page of JSON values. Its values are nested two levels deep. -/
def ofTree? (tree : Tree) : Option (Page Json) := do
  match ← tree.fields? ["data", "paging"] with
  | [some data, some paging] =>
    let data ← Tree.list? (Tree.toJson? (Json.depthLimit - 2)) data
    let paging ← Paging.ofTree? paging
    some ⟨data, paging⟩
  | _ => none

def toJson (page : Page Json) : Json :=
  .object [("data", .array page.data), ("paging", page.paging.toJson)]

end Page

/-- How many rows to skip and how many to take for a numbered page. -/
def offsetWindow (page pageSize : Nat) : Except QueryError (Nat × Nat) :=
  if page = 0 then .error (.invalidPagination .pageZero)
  else if pageSize = 0 then .error (.invalidPagination .sizeZero)
  else if wordCount ≤ (page - 1) * pageSize then .error (.invalidPagination (.outOfRange page))
  else .ok ((page - 1) * pageSize, pageSize)

end RecordQuery
