import RecordQuery.Evaluator
import RecordQuery.Proofs.CompleteWalk
import RecordQuery.Proofs.SortText

/-!
# Numbered pages and pages by cursor

A query asks for a page by its number or, with a cursor, for a page of a walk. Its specification is
compiled alike in both modes, but the walk reads the sort order again from its text and finds its
pages by their boundaries. The pages that the walk returns are the numbered ones.
-/

namespace RecordQuery

variable {α : Type}

/-- The pages have the same rows and the same metadata, page number and tokens aside. -/
structure Page.Agrees (a b : Page α) : Prop where
  data : a.data = b.data
  pageSize : a.paging.pageSize = b.paging.pageSize
  totalPage : a.paging.totalPage = b.paging.totalPage
  hasNextPage : a.paging.hasNextPage = b.paging.hasNextPage
  hasPreviousPage : a.paging.hasPreviousPage = b.paging.hasPreviousPage

/-! ### The order of a query -/

theorem Builder.spec_sort_of_sort {builder result : Builder} {schema : Schema} {text : String}
    {tie : Option String} (h : builder.sort schema text tie = .ok result) :
    ∃ order, result.spec.sort = some order ∧ SortOrder.compile schema text tie = .ok order := by
  obtain ⟨order, horder, h⟩ := bind_eq_ok.mp h
  cases h
  exact ⟨order, rfl, horder⟩

/-- A request with a tie-breaker is given an order, whatever its filter and its search are. -/
theorem Builder.spec_sort_of_request {builder result : Builder} {schema : Schema}
    {request : QueryRequest} {tie : String}
    (h : builder.request schema request (some tie) = .ok result) :
    ∃ order, result.spec.sort = some order ∧
      SortOrder.compile schema (request.sort.getD "") (some tie) = .ok order := by
  rw [Builder.request] at h
  simp only [Option.isSome_some, Bool.or_true, if_true] at h
  cases hfilter : request.filter <;> rw [hfilter] at h
  all_goals
    obtain ⟨filtered, -, h⟩ := bind_eq_ok.mp h
    cases hsearch : request.search <;> rw [hsearch] at h
    all_goals
      obtain ⟨searched, -, h⟩ := bind_eq_ok.mp h
      exact spec_sort_of_sort h

theorem Evaluator.sort_of_specification {m : Type → Type} {e : Evaluator m α} {schema : Schema}
    {request : QueryRequest} {tie : String} {spec : Specification}
    (h : e.specification schema request tie = .ok spec) :
    ∃ order, spec.sort = some order ∧
      SortOrder.compile schema (request.sort.getD "") (some tie) = .ok order := by
  obtain ⟨builder, hbuilder, h⟩ := bind_eq_ok.mp h
  cases h
  exact Builder.spec_sort_of_request hbuilder

namespace SortOrder

theorem compile_congr_tie {schema : Schema} {text : String} {a b : Option String}
    (h : effectiveTie a = effectiveTie b) : compile schema text a = compile schema text b := by
  rw [compile, compile, ← effectiveTie, ← effectiveTie, h]

theorem compile_trim_tie (schema : Schema) (text tie : String) :
    compile schema text (some (Text.trim tie)) = compile schema text (some tie) :=
  compile_congr_tie (by rw [effectiveTie, effectiveTie, Option.map_some, Option.map_some,
    Text.trim_trim])

theorem effectiveTie_of_notBlank {tie : String} (h : Text.isBlank tie = false) :
    effectiveTie (some tie) = some (Text.trim tie) := by
  have hempty : Text.trim tie ≠ "" := by
    rw [Ne, Text.trim_eq_empty_iff, h]
    simp
  rw [effectiveTie, Option.map_some, Option.filter_some, if_pos (by simpa using hempty)]

theorem tieBreaker_isSome {schema : Schema} {text tie : String} {order : SortOrder}
    (hcompile : compile schema text (some tie) = .ok order) (htie : Text.isBlank tie = false) :
    order.tieBreaker.isSome := by
  obtain ⟨keys, -, ⟨hnone, -⟩ | ⟨_, key, -, -, rfl⟩⟩ := compile_eq_ok.mp hcompile
  · rw [effectiveTie_of_notBlank htie] at hnone
    cases hnone
  · rfl

end SortOrder

/-- A size that was cut to the greatest one is not cut again. -/
theorem PagingConfig.clamp_pageSize (config : PagingConfig) (requested : Nat) :
    config.clamp (config.pageSize requested) = config.pageSize requested := by
  rw [pageSize, clamp, clamp, Nat.min_assoc, Nat.min_self]

/-! ### The two modes -/

/-- A whole query with all that its answer depends on beside the rows. -/
structure Inquiry where
  config : PagingConfig
  codec : Codec
  schema : Schema
  request : QueryRequest
  tieBreaker : String

variable [Queryable α]

namespace Inquiry

def evaluator (q : Inquiry) (rows : List α) : Evaluator Id α :=
  ⟨Source.ofList rows, q.config, q.codec⟩

/-- The answer to the query over the rows of a list, with another request in its place. -/
def answer (q : Inquiry) (request : QueryRequest) (rows : List α) : Except QueryError (Page α) :=
  Id.run ((q.evaluator rows).query q.schema request q.tieBreaker)

/-- The page of the query with a number. -/
def page (q : Inquiry) (number : Nat) (rows : List α) : Except QueryError (Page α) :=
  q.answer { q.request with page := number, cursor := none } rows

/-- The page of the query after a token; without one, its cursor is empty. -/
def pageAfter (q : Inquiry) (token : Option String) (rows : List α) : Except QueryError (Page α) :=
  q.answer { q.request with cursor := some { after := token } } rows

/-- The walk that begins with an empty cursor and follows the tokens of the next pages. -/
def walk (q : Inquiry) : List (List α) → Except QueryError (List (Page α)) :=
  Listing.walk q.pageAfter Paging.after none

def specification (q : Inquiry) : Except QueryError Specification :=
  (q.evaluator ([] : List Record)).specification q.schema q.request q.tieBreaker

/-- What the requests of the walk have in common. -/
def listing (q : Inquiry) (spec : Specification) : Listing :=
  ⟨spec.predicate, spec.sort.getD .empty, q.config.pageSize q.request.pageSize, q.codec⟩

variable {q : Inquiry} {rows : List α} {spec : Specification}

/-- The order of the walk can be read again: the request spells it, or the tie-breaker has no comma
that would split the text of the order. -/
def Respelled (q : Inquiry) : Prop :=
  Text.isBlank (q.request.sort.getD "") = false ∨ ',' ∉ q.tieBreaker.toList

theorem listing_order {order : SortOrder} (h : spec.sort = some order) :
    (q.listing spec).order = order := by
  rw [listing, h]
  rfl

section Walk

variable (hspec : q.specification = .ok spec) (htie : Text.isBlank q.tieBreaker = false)
  (hrespelled : q.Respelled)

include hspec htie hrespelled

/-- **The walk has the order of the specification.** -/
theorem keysetSort_eq {cursor : CursorRequest} (hsort : cursor.sort = q.request.sort)
    (hunique : cursor.uniqueSort = q.tieBreaker) :
    Evaluator.keysetSort q.schema spec cursor = .ok (q.listing spec).order := by
  obtain ⟨order, horder, hcompile⟩ := Evaluator.sort_of_specification hspec
  have hnamed : (Text.trim q.tieBreaker).isEmpty = false := by
    rw [← Bool.not_eq_true, String.isEmpty_iff, Text.trim_eq_empty_iff, htie]
    simp
  rw [listing_order horder, Evaluator.keysetSort, hsort, hunique]
  simp only [hnamed, horder, Bool.false_eq_true, if_false, Option.map_some]
  rw [SortOrder.compile_trim_tie]
  by_cases hblank : Text.isBlank (q.request.sort.getD "") = true
  · -- no sort in the request: the text of the order is compiled again
    have hcomma : ',' ∉ q.tieBreaker.toList := by
      rcases hrespelled with hspelled | hcomma
      · rw [hspelled] at hblank
        cases hblank
      · exact hcomma
    have hnone : q.request.sort.filter (fun sort => !Text.isBlank sort) = none := by
      cases htext : q.request.sort with
      | none => rfl
      | some text =>
          rw [htext, Option.getD_some] at hblank
          rw [Option.filter_some, hblank]
          rfl
    rw [hnone]
    exact SortOrder.compile_text hcompile (SortOrder.plain_of_compile hcompile (by simpa))
  · obtain ⟨text, htext⟩ : ∃ text, q.request.sort = some text := by
      cases htext : q.request.sort with
      | none => exact absurd (by rw [htext]; rfl) hblank
      | some text => exact ⟨text, rfl⟩
    rw [htext, Option.getD_some] at hblank hcompile
    rw [htext, Option.filter_some, if_pos (by simpa using hblank)]
    exact hcompile

/-- A page by cursor is a page of the listing. -/
theorem pageAfter_eq (token : Option String) :
    q.pageAfter token rows = (q.listing spec).page (Evaluator.base spec) none token rows := by
  have hsame : (q.evaluator rows).specification q.schema
      { q.request with cursor := some { after := token } } q.tieBreaker = .ok spec := hspec
  rw [pageAfter, answer, Evaluator.query, hsame]
  dsimp only [QueryRequest.cursorRequest?, Option.map_some]
  rw [Evaluator.paginateCursor, Evaluator.pager,
    keysetSort_eq hspec htie hrespelled rfl rfl, Listing.page]
  dsimp only [bind, Except.bind, evaluator, listing]
  rw [PagingConfig.clamp_pageSize]
  cases KeysetPager.create spec.predicate (spec.sort.getD .empty)
    (q.config.pageSize q.request.pageSize) none token q.codec <;> rfl

theorem walk_eq_forward (states : List (List α)) :
    q.walk states = (q.listing spec).forward (Evaluator.base spec) none states := by
  have hpage : q.pageAfter (α := α) =
      fun token rows => (q.listing spec).page (Evaluator.base spec) none token rows := by
    funext token rows
    exact pageAfter_eq hspec htie hrespelled token
  rw [walk, hpage]
  rfl

end Walk

/-- A numbered page is a stretch of the list. -/
theorem page_eq (hspec : q.specification = .ok spec) {k : Nat} (hsize : 1 ≤ (q.listing spec).size)
    (hk : k * (q.listing spec).size < wordCount) :
    q.page (k + 1) rows =
      .ok ⟨(((q.listing spec).sorted rows).drop (k * (q.listing spec).size)).take
          (q.listing spec).size,
        .offset ((q.listing spec).matching rows).length (k + 1) (q.listing spec).size⟩ := by
  obtain ⟨order, horder, -⟩ := Evaluator.sort_of_specification hspec
  have hsame : (q.evaluator rows).specification q.schema
      { q.request with page := k + 1, cursor := none } q.tieBreaker = .ok spec := hspec
  have hclamp : q.config.clamp (q.config.pageSize q.request.pageSize) = (q.listing spec).size :=
    PagingConfig.clamp_pageSize _ _
  have hpage : ((q.evaluator rows).paginate spec ⟨k + 1, q.config.pageSize q.request.pageSize⟩).run =
      .ok ⟨Paging.stretch (k + 1) (q.config.clamp (q.config.pageSize q.request.pageSize)) _,
        .offset _ (k + 1) (q.config.clamp (q.config.pageSize q.request.pageSize))⟩ :=
    Evaluator.run_paginate rfl k.succ_pos (PagingConfig.clamp_pos.mp (hclamp ▸ hsize))
      (hclamp ▸ hk)
  rw [Evaluator.run_list rfl, Source.length_arrange, horder, hclamp] at hpage
  rw [page, answer, Evaluator.query, hsame, Listing.sorted, Listing.matching,
    listing_order horder]
  exact hpage

end Inquiry

/-! ### Agreement -/

namespace Listing

omit [Queryable α] in
theorem length_parts (xs : List α) (i size : Nat) :
    (xs.take i).length + ((xs.drop i).take size).length + (xs.drop (i + size)).length =
      xs.length := by
  simp only [List.length_take, List.length_drop]
  omega

variable {l : Listing} {rows : List α}

theorem pageAt_totalPage (l : Listing) (rows : List α) (i : Nat) :
    (l.pageAt rows i).paging.totalPage = Paging.totalPages (l.matching rows).length l.size := by
  change Paging.totalPages _ l.size = _
  rw [length_parts, length_sorted]

/-- The metadata of a page of the list are those of its number. -/
theorem pageAt_agrees (hl : l.Sound) {k : Nat} (hk : k < l.pageCount rows) :
    (l.pageAt rows (k * l.size)).Agrees
      ⟨((l.sorted rows).drop (k * l.size)).take l.size,
        .offset (l.matching rows).length (k + 1) l.size⟩ := by
  have hcount : l.pageCount rows = max 1 (Paging.totalPages (l.matching rows).length l.size) := rfl
  refine ⟨rfl, rfl, l.pageAt_totalPage rows _, ?_, ?_⟩
  · change (l.pageAt rows (k * l.size)).paging.after.isSome = decide _
    by_cases hnext : k + 1 < l.pageCount rows
    · obtain ⟨row, -, hafter⟩ := exists_last_row hl hnext
      rw [hafter, eq_comm, Option.isSome_some, decide_eq_true_eq]
      omega
    · rw [pageAt_last_after hl (Nat.not_lt.mp hnext), eq_comm, Option.isSome_none,
        decide_eq_false_iff_not]
      omega
  · change (l.pageAt rows (k * l.size)).paging.before.isSome = decide _
    by_cases hfirst : k = 0
    · rw [hfirst, Nat.zero_mul, pageAt_zero_before]
      rfl
    · have hpos : 0 < k := Nat.pos_of_ne_zero hfirst
      have hlt : k * l.size < (l.sorted rows).length := (lt_pageCount_iff hl hpos).mp hk
      rw [pageAt_before hl (List.getElem?_eq_getElem hlt) (Nat.mul_pos hpos hl.size), eq_comm,
        Option.isSome_some, decide_eq_true_eq]
      omega

theorem getElem?_pagesFrom {count k : Nat} {page : Page α}
    (h : (l.pagesFrom rows 0 count)[k]? = some page) :
    k < count ∧ l.pageAt rows (k * l.size) = page := by
  rw [pagesFrom, List.getElem?_map, Option.map_eq_some_iff] at h
  obtain ⟨i, hi, rfl⟩ := h
  obtain ⟨hk, hi⟩ := List.getElem?_eq_some_iff.mp hi
  rw [List.length_range'] at hk
  rw [List.getElem_range'] at hi
  exact ⟨hk, by rw [← hi, Nat.zero_add, Nat.one_mul]⟩

end Listing

namespace Inquiry

variable {q : Inquiry} {rows : List α} {spec : Specification}

theorem exists_page (hspec : q.specification = .ok spec) (hl : (q.listing spec).Sound)
    (hlength : rows.length ≤ wordCount) {k : Nat} (hk : k < (q.listing spec).pageCount rows) :
    ∃ numbered, q.page (k + 1) rows = .ok numbered ∧
      ((q.listing spec).pageAt rows (k * (q.listing spec).size)).Agrees numbered := by
  refine ⟨_, page_eq hspec hl.size ?_, Listing.pageAt_agrees hl hk⟩
  rcases Nat.eq_zero_or_pos k with rfl | hpos
  · rw [Nat.zero_mul]
    decide
  · have hlt := (Listing.lt_pageCount_iff hl hpos).mp hk
    have hmatching : ((q.listing spec).matching rows).length ≤ rows.length :=
      List.length_filter_le _ _
    rw [Listing.length_sorted] at hlt
    omega

/-- **The walk of a query returns its numbered pages.** Every page that the walk returns has the
rows and the metadata of the numbered page at its place. The walk returns all pages and stops
exactly when the rows that end its pages are readable. There are no more rows than a machine word
can count. -/
theorem walk_agrees (hspec : q.specification = .ok spec)
    (htie : Text.isBlank q.tieBreaker = false) (hrespelled : q.Respelled)
    (hsize : 1 ≤ (q.listing spec).size) (hcodec : q.codec.Invertible)
    (hrows : (q.listing spec).Regular rows) (hnamed : (q.listing spec).Named rows)
    (hshort : (q.listing spec).Short rows) (hlength : rows.length ≤ wordCount) :
    (∀ limit pages, q.walk (List.replicate limit rows) = .ok pages →
      ∀ k page, pages[k]? = some page →
        ∃ numbered, q.page (k + 1) rows = .ok numbered ∧ page.Agrees numbered) ∧
    ((∃ pages, (∀ limit, q.walk (List.replicate limit rows) = .ok (pages.take limit)) ∧
        (∀ page ∈ pages.getLast?, page.paging.after = none) ∧
        pages ≠ [] ∧ ∀ page ∈ pages, pages.length = max 1 page.paging.totalPage) ↔
      ∀ i, 0 < i → i * (q.listing spec).size < ((q.listing spec).matching rows).length →
        (q.listing spec).ReadableAt rows (i * (q.listing spec).size - 1)) := by
  obtain ⟨order, horder, hcompile⟩ := Evaluator.sort_of_specification hspec
  have hl : (q.listing spec).Sound := by
    have hlisting := listing_order (q := q) horder
    exact Listing.sound_of_compile (hlisting ▸ hcompile)
      (hlisting ▸ SortOrder.tieBreaker_isSome hcompile htie) hsize
  have hcodec : (q.listing spec).codec.Invertible := hcodec
  simp only [walk_eq_forward hspec htie hrespelled]
  rw [← Listing.forward_pages_iff hl hcodec hrows hnamed hshort]
  refine ⟨?_, ?_, ?_⟩
  · rintro (_ | limit) pages hpages k page hpage
    · cases hpages
      cases hpage
    · obtain ⟨-, rfl⟩ :=
        (Listing.forward_eq_ok hl hcodec hrows hnamed hshort _ limit).mp hpages
      obtain ⟨hk, rfl⟩ := Listing.getElem?_pagesFrom hpage
      exact exists_page hspec hl hlength (by omega)
  · rintro ⟨pages, hforward, -⟩
    rw [← Listing.eq_pagesFrom_of_forward hl hcodec hrows hnamed hshort hforward]
    exact hforward
  · intro hforward
    refine ⟨_, hforward, Listing.last_page_after hl, ?_, ?_⟩
    · rw [← List.length_pos_iff, Listing.length_pagesFrom]
      exact Nat.lt_of_lt_of_le Nat.one_pos (Nat.le_max_left ..)
    · intro page hpage
      obtain ⟨i, -, rfl⟩ := List.mem_map.mp hpage
      rw [Listing.length_pagesFrom, Listing.pageAt_totalPage]
      rfl

end Inquiry

namespace Event

/-- All events in the order of their times, one on each page. -/
def inquiry : Inquiry := ⟨{}, ⟨[]⟩, schema, { pageSize := 1, sort := some "at" }, "id"⟩

theorem specification_inquiry : inquiry.specification = .ok { sort := some listing.order } := by
  cbv

theorem query_pair :
    ∃ pages numbered second, inquiry.walk [pair, pair] = .ok pages ∧ pages[1]? = some second ∧
      inquiry.page 2 pair = .ok numbered ∧ second.Agrees numbered := by
  have hrows : listing.Regular pair := regular (by decide)
  have hshort : listing.Short pair := by decide +kernel
  have hreadable := readable_of_mem (by decide +kernel : ∀ e ∈ pair, (Timestamp.mk e.time).Readable)
  obtain ⟨hagrees, hcomplete⟩ := Inquiry.walk_agrees specification_inquiry (by decide)
    (Or.inl (by decide)) (by decide) invertible hrows (named pair) hshort (by decide)
  obtain ⟨pages, hwalk, -⟩ := hcomplete.mpr fun i _ _ => Listing.readableAt_of_forall hreadable _
  have hlength : (inquiry.walk [pair, pair]).toOption.map List.length = some 2 := by
    decide +kernel
  rw [show [pair, pair] = List.replicate 2 pair from rfl, hwalk 2] at hlength
  have htwo : (pages.take 2).length = 2 := Option.some.inj hlength
  have hsecond : (pages.take 2)[1]? = some (pages.take 2)[1] := List.getElem?_eq_getElem (by omega)
  obtain ⟨numbered, hnumbered, hagree⟩ := hagrees 2 _ (hwalk 2) 1 _ hsecond
  exact ⟨_, numbered, _, hwalk 2, hsecond, hnumbered, hagree⟩

/-- The second page of late events has a number but cannot be walked to. -/
theorem query_late :
    (listing.Regular late ∧ listing.Named late ∧ listing.Short late) ∧
      (∃ numbered, inquiry.page 2 late = .ok numbered ∧ numbered.data = [⟨2, 253402300800001⟩]) ∧
      ¬∃ pages, inquiry.walk [late, late] = .ok pages := by
  refine ⟨⟨regular (by decide), named late, by decide +kernel⟩, ?_, ?_⟩
  · have hdata : (inquiry.page 2 late).toOption.map Page.data =
        some [⟨2, 253402300800001⟩] := by decide +kernel
    exact toOption_map_eq_some.mp hdata
  · rw [Inquiry.walk_eq_forward specification_inquiry (by decide) (Or.inl (by decide))]
    exact forward_late_ne_ok _

end Event

end RecordQuery
