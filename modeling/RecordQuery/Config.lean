import RecordQuery.Json.Shape

/-! # Paging configuration -/

namespace RecordQuery

open Json (Tree)

/-- Default and greatest page size, and how far a search discovers fields. -/
structure PagingConfig where
  defaultPageSize : Nat := 100
  maxPageSize : Nat := 1000
  defaultSearchDepth : Int := 0
  deriving DecidableEq

namespace PagingConfig

def ofTree? (tree : Tree) : Option PagingConfig := do
  match ← tree.fields? ["defaultPageSize", "maxPageSize", "defaultSearchDepth"] with
  | [defaultPageSize, maxPageSize, defaultSearchDepth] =>
    let defaultPageSize ← Tree.orDefault defaultPageSize 100 Tree.natural?
    let maxPageSize ← Tree.orDefault maxPageSize 1000 Tree.natural?
    let defaultSearchDepth ← Tree.orDefault defaultSearchDepth 0 Tree.int32?
    some { defaultPageSize, maxPageSize, defaultSearchDepth }
  | _ => none

def toJson (config : PagingConfig) : Json :=
  .object [("defaultPageSize", .ofNat config.defaultPageSize),
    ("maxPageSize", .ofNat config.maxPageSize),
    ("defaultSearchDepth", .ofInt config.defaultSearchDepth)]

def limit (config : PagingConfig) : Nat :=
  max config.maxPageSize 1

/-- The given size, at most the greatest one. -/
def clamp (config : PagingConfig) (requested : Nat) : Nat :=
  min requested config.limit

/-- The size of a page; zero asks for the default. -/
def pageSize (config : PagingConfig) (requested : Nat) : Nat :=
  config.clamp (if requested = 0 then config.defaultPageSize else requested)

end PagingConfig

end RecordQuery
