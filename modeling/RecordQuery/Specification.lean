import RecordQuery.Filter.Document
import RecordQuery.Json.Writer
import RecordQuery.Request
import RecordQuery.Search
import RecordQuery.SortOrder

/-! # Specifications

A specification says which records a query means, in which order, and how they are loaded.
Specifications can be joined, and a builder makes them step by step from the parts of requests.
-/

namespace RecordQuery

structure Specification where
  criteria : Option Filter := none
  sort : Option SortOrder := none
  /-- The dotted paths of related records to load. -/
  includes : List String := []
  noTracking : Bool := false
  splitQuery : Bool := false
  cacheKey : Option String := none

namespace Specification

def all : Specification := {}

/-- The criteria; without any, every record matches. -/
def predicate (spec : Specification) : Filter :=
  spec.criteria.getD (.const true)

def accepts (spec : Specification) (r : Record) : Bool :=
  spec.predicate.accepts r

/-- Adds a path that is not there yet. -/
def addInclude (includes : List String) (path : String) : List String :=
  if includes.contains path then includes else includes ++ [path]

/-- Everything of two specifications but their criteria: the left sort wins, and a cache key does
not carry over. -/
def merge (a b : Specification) (criteria : Option Filter) : Specification where
  criteria := criteria
  sort := a.sort.or b.sort
  includes := b.includes.foldl addInclude a.includes
  noTracking := a.noTracking || b.noTracking
  splitQuery := a.splitQuery || b.splitQuery

def and (a b : Specification) : Specification :=
  merge a b <| match a.criteria, b.criteria with
    | some f, some g => some (f.and g)
    | f, g => f.or g

def or (a b : Specification) : Specification :=
  merge a b <| match a.criteria, b.criteria with
    | some f, some g => some (f.or g)
    | _, _ => none

def text (spec : Specification) : String :=
  "where " ++ spec.predicate.describe
    ++ (match spec.sort with
      | some sort => " order " ++ sort.text
      | none => "")
    ++ (if spec.includes.isEmpty then "" else " include [" ++ Text.join ", " spec.includes ++ "]")
    ++ (if spec.noTracking then " no_tracking" else "")
    ++ (if spec.splitQuery then " split_query" else "")

/-- A key for caches: the name of the record type, the text of the specification and the JSON text
of what else the result depends on. -/
def cacheKeyWith (schema : Schema) (extra : Option Json) (spec : Specification) : String :=
  schema.type.name ++ "|" ++ spec.text
    ++ (match extra with
      | some value => "~" ++ value.render
      | none => "")

end Specification

/-- A specification under construction, with the include that was named last and the depth to
which a search discovers fields. -/
structure Builder where
  spec : Specification := {}
  lastInclude : Option String := none
  searchDepth : Int := 0

namespace Builder

/-! ### Criteria -/

/-- Joins a filter with the criteria so far. The first filter stands alone. -/
def combine (builder : Builder) (filter : Filter) (combinator : Combinator) : Builder :=
  let criteria := match builder.spec.criteria with
    | none => filter
    | some current => match combinator with
      | .and => current.and filter
      | .or => current.or filter
  { builder with spec := { builder.spec with criteria := some criteria } }

def filterNode (builder : Builder) (filter : Filter) : Builder :=
  builder.combine filter .and

/-- Compiles a filter document and conjoins it. -/
def filter (builder : Builder) (schema : Schema) (document : Json) : Except QueryError Builder := do
  let filter ← Filter.compile schema document
  .ok (builder.combine filter .and)

def withSearchDepth (builder : Builder) (depth : Int) : Builder :=
  { builder with searchDepth := depth }

/-- Conjoins a keyword search. A blank keyword is ignored. -/
def search (builder : Builder) (schema : Schema) (request : SearchRequest) :
    Except QueryError Builder :=
  match request.effectiveKeyword with
  | none => .ok builder
  | some keyword => do
    let depth := request.depth.getD builder.searchDepth
    let filter ← Search.compile schema keyword request.targets depth
    .ok (builder.combine filter .and)

/-! ### Order -/

def sortOrder (builder : Builder) (order : SortOrder) : Builder :=
  { builder with spec := { builder.spec with sort := some order } }

def sort (builder : Builder) (schema : Schema) (text : String) (tieBreaker : Option String) :
    Except QueryError Builder := do
  let order ← SortOrder.compile schema text tieBreaker
  .ok (builder.sortOrder order)

/-! ### Includes -/

/-- The canonical form of a path to load. -/
def resolveInclude (schema : Schema) (path : String) : Except QueryError String :=
  match schema.resolve? path with
  | some resolved => .ok resolved.text
  | none => .error (.invalidInclude path)

def pushInclude (builder : Builder) (path : String) : Builder :=
  { builder with
    spec := { builder.spec with
      includes := Specification.addInclude builder.spec.includes path }
    lastInclude := some path }

/-- Adds a path to load. -/
def withInclude (builder : Builder) (schema : Schema) (path : String) : Except QueryError Builder := do
  let path ← resolveInclude schema path
  .ok (builder.pushInclude path)

/-- Adds a path below the include that was named last. -/
def withNestedInclude (builder : Builder) (schema : Schema) (path : String) :
    Except QueryError Builder :=
  match builder.lastInclude with
  | none => .error (.invalidInclude path)
  | some parent => builder.withInclude schema (parent ++ "." ++ path)

/-! ### Flags -/

def noTracking (builder : Builder) : Builder :=
  { builder with spec := { builder.spec with noTracking := true } }

def splitQuery (builder : Builder) : Builder :=
  { builder with spec := { builder.spec with splitQuery := true } }

def cache (builder : Builder) (key : String) : Builder :=
  { builder with spec := { builder.spec with cacheKey := some key } }

/-! ### Requests -/

/-- Applies filter, search and sort of a request. The sort is compiled when there is one or when a
tie-breaker is given. -/
def request (builder : Builder) (schema : Schema) (request : QueryRequest)
    (tieBreaker : Option String) : Except QueryError Builder := do
  let builder ← match request.filter with
    | some document => builder.filter schema document
    | none => .ok builder
  let builder ← match request.search with
    | some search => builder.search schema search
    | none => .ok builder
  let sort := request.sort.getD ""
  if !Text.isBlank sort || tieBreaker.isSome then builder.sort schema sort tieBreaker
  else .ok builder

def build (builder : Builder) : Specification :=
  builder.spec

end Builder

def Specification.ofRequest (schema : Schema) (request : QueryRequest)
    (tieBreaker : Option String) : Except QueryError Specification := do
  let builder ← Builder.request {} schema request tieBreaker
  .ok builder.build

end RecordQuery
