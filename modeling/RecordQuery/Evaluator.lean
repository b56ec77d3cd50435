import RecordQuery.Config
import RecordQuery.Keyset
import RecordQuery.Specification

/-! # Evaluation

An evaluator runs specifications and requests against a source. Requests are compiled before the
source is called.
-/

namespace RecordQuery

/-- A source with the limits of its pages and the codec of its tokens. -/
structure Evaluator (m : Type → Type) (α : Type) where
  source : Source m α
  config : PagingConfig := {}
  codec : Codec := ⟨[]⟩

namespace Evaluator

/-- The fetch of all rows of a specification. -/
def base (spec : Specification) : Fetch where
  filter := spec.predicate
  order := spec.sort
  skip := 0
  take := none
  includes := spec.includes
  noTracking := spec.noTracking
  splitQuery := spec.splitQuery

variable {m : Type → Type} {α : Type} [Monad m] [Queryable α]

/-- All rows in the order of the specification. -/
def list (e : Evaluator m α) (spec : Specification) : m (List α) :=
  e.source.fetch (base spec)

def count (e : Evaluator m α) (spec : Specification) : m Nat :=
  e.source.count spec.predicate

/-- A numbered page, of at most the greatest size. -/
def paginate (e : Evaluator m α) (spec : Specification) (request : OffsetRequest) :
    m (Except QueryError (Page α)) :=
  match offsetWindow request.page (e.config.clamp request.pageSize) with
  | .error error => return .error error
  | .ok (skip, take) => do
    let total ← e.count spec
    let data ← e.source.fetch { base spec with skip := skip, take := some take }
    return .ok ⟨data, .offset total request.page take⟩

/-- The sort order of a page by cursor: the sort of the request before the one of the
specification, and likewise for the tie-breaker. -/
def keysetSort (schema : Schema) (spec : Specification) (request : CursorRequest) :
    Except QueryError SortOrder :=
  let named := Text.trim request.uniqueSort
  let tieBreaker := if named.isEmpty then spec.sort.bind SortOrder.tieBreaker else some named
  match tieBreaker with
  | none => .error (.invalidPagination .noTieBreaker)
  | some tie =>
    let requested := request.sort.filter fun sort => !Text.isBlank sort
    let sort := (requested.or (spec.sort.map SortOrder.text)).getD ""
    SortOrder.compile schema sort (some tie)

def pager (e : Evaluator m α) (schema : Schema) (spec : Specification) (request : CursorRequest) :
    Except QueryError KeysetPager := do
  let sort ← keysetSort schema spec request
  KeysetPager.create spec.predicate sort (e.config.clamp request.size) request.before
    request.after e.codec

def paginateCursor (e : Evaluator m α) (schema : Schema) (spec : Specification)
    (request : CursorRequest) : m (Except QueryError (Page α)) :=
  match e.pager schema spec request with
  | .error error => return .error error
  | .ok pager => pager.run e.source (base spec)

def specification (e : Evaluator m α) (schema : Schema) (request : QueryRequest)
    (tieBreaker : String) : Except QueryError Specification := do
  let builder := Builder.withSearchDepth {} e.config.defaultSearchDepth
  let builder ← builder.request schema request (some tieBreaker)
  .ok builder.build

/-- The page that a whole query asks for: by cursor if it has one, numbered otherwise. -/
def query (e : Evaluator m α) (schema : Schema) (request : QueryRequest) (tieBreaker : String) :
    m (Except QueryError (Page α)) :=
  match e.specification schema request tieBreaker with
  | .error error => return .error error
  | .ok spec =>
    let size := e.config.pageSize request.pageSize
    match request.cursorRequest? tieBreaker with
    | some cursor => e.paginateCursor schema spec { cursor with size := size }
    | none => e.paginate spec ⟨request.page, size⟩

end Evaluator

end RecordQuery
