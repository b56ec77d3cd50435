import RecordQuery.Evaluator
import RecordQuery.Proofs.NormalFilter
import RecordQuery.Proofs.Page
import RecordQuery.Proofs.SortText

/-!
# Orders compiled again

A page by cursor without a sort of its own takes the order of the specification from its text and
the path of its tie-breaker, and compiles both again. Unless the name of a field is empty or holds a
comma, that gives the order back, and so the page is in the order of the specification.
-/

namespace RecordQuery

/-! ### The texts of paths -/

namespace Path

theorem text_ne_empty {p : Path} (hundotted : p.Undotted) (hnames : ∀ hop ∈ p.hops, hop.name ≠ "") :
    p.text ≠ "" := by
  intro hempty
  have hsplit : p.hops.map Field.name = [""] := by
    rw [← split_text hundotted, hempty]
    rfl
  obtain ⟨hop, hhop, hname⟩ : ∃ hop ∈ p.hops, hop.name = "" :=
    List.mem_map.mp (by simp [hsplit])
  exact hnames hop hhop hname

theorem comma_notMem_text {p : Path} (hnames : ∀ hop ∈ p.hops, ',' ∉ hop.name.toList) :
    ',' ∉ p.text.toList := by
  intro hmem
  rcases Text.mem_join hmem with hmem | ⟨name, hname, hmem⟩
  · simp at hmem
  · obtain ⟨hop, hhop, rfl⟩ := List.mem_map.mp hname
    exact hnames hop hhop hmem

end Path

/-! ### A second pass -/

namespace SortOrder

variable {schema : Schema} {entry text : String} {tieBreaker : Option String} {order : SortOrder}
  {key : SortKey}

/-- The path of a key is read as an ascending key. -/
theorem readKey_text (h : readKey schema entry = .ok key) :
    readKey schema key.path.text = .ok ⟨key.path, .asc⟩ := by
  obtain ⟨text, -, hpath, hsortable⟩ := readKey_eq_ok.mp h
  refine readKey_eq_ok.mpr ⟨key.path.text, ?_, Schema.resolve?_text hpath, hsortable⟩
  rw [splitEntry, Text.splitOnce_eq, if_neg (colon_notMem_text h), (trimmed_path h).trim_eq]

/-- A name that can stand in the text of an order. -/
def Spellable (name : String) : Prop :=
  name ≠ "" ∧ ',' ∉ name.toList

section Second

variable (hnamed : schema.Named Spellable) (h : compile schema text tieBreaker = .ok order)

include hnamed h

theorem plain_of_named : order.Plain := by
  intro key hkey
  obtain ⟨entry, hentry⟩ := exists_readKey h key hkey
  obtain ⟨text, -, hpath, -⟩ := readKey_eq_ok.mp hentry
  exact Path.comma_notMem_text fun hop hhop => (hnamed.path hpath hop hhop).2

/-- **A compiled order is compiled from its own text and tie-breaker.** The tie-breaker is read in
ascending direction, but its path is a key already. -/
theorem compile_again : compile schema order.text order.tieBreaker = .ok order := by
  refine compile_eq_ok.mpr ⟨order.keys, readKeys_text h (plain_of_named hnamed h), ?_⟩
  cases htie : order.tieBreaker with
  | none =>
      refine Or.inl ⟨rfl, ?_⟩
      rw [← htie]
  | some tie =>
      obtain ⟨key, hkey, rfl⟩ := (wellFormed_of_compile h).tie tie htie
      obtain ⟨entry, hentry⟩ := exists_readKey h key hkey
      obtain ⟨text, -, hpath, -⟩ := readKey_eq_ok.mp hentry
      have hnonempty : key.path.text ≠ "" :=
        Path.text_ne_empty (Schema.resolve?_undotted hpath) fun hop hhop =>
          (hnamed.path hpath hop hhop).1
      have heffective : effectiveTie (some key.path.text) = some key.path.text := by
        rw [effectiveTie, Option.map_some, (trimmed_path hentry).trim_eq, Option.filter_some,
          if_pos (by simpa using hnonempty)]
      have hmem : key.path.text ∈ order.keys.map fun k => k.path.text :=
        List.mem_map.mpr ⟨key, hkey, rfl⟩
      refine Or.inr ⟨key.path.text, ⟨key.path, .asc⟩, heffective, readKey_text hentry, ?_⟩
      have hsame : addKey order.keys ⟨key.path, .asc⟩ = order.keys := addKey_of_mem hmem
      rw [hsame, ← htie]

/-- Without a sort and a tie-breaker of its own, a request has the order of its specification. -/
theorem keysetSort_again {spec : Specification} {request : CursorRequest}
    (hspec : spec.sort = some order) (htie : order.tieBreaker.isSome)
    (hsort : ∀ sort ∈ request.sort, Text.isBlank sort = true)
    (hunique : Text.isBlank request.uniqueSort = true) :
    Evaluator.keysetSort schema spec request = .ok order := by
  have hagain := compile_again hnamed h
  obtain ⟨tie, htie⟩ := Option.isSome_iff_exists.mp htie
  have hnone : request.sort.filter (fun sort => !Text.isBlank sort) = none := by
    rw [Option.filter_eq_none_iff]
    intro sort hmem
    simp [hsort sort hmem]
  rw [Evaluator.keysetSort, Text.trim_eq_empty_iff.mpr hunique, hspec, hnone]
  simpa [htie] using hagain

end Second

end SortOrder

/-! ### Pages -/

namespace Listing

variable {α : Type} [Queryable α] {l : Listing} {rows : List α}

/-- Whatever the boundary is, the fetched rows are in order. -/
theorem answer_sublist (hl : l.Sound) (hrows : l.Regular rows) (spot : Spot) (base : Fetch) :
    (l.answer spot base rows).Sublist (l.sorted rows) := by
  cases spot with
  | start => exact List.take_sublist _ _
  | after boundary =>
      change ((Source.arrange (some l.order) (Source.select
        (l.filter.and (l.order.keyset boundary)) rows)).take l.size).Sublist _
      rw [arrange_select_and hl hrows]
      exact (List.take_sublist _ _).trans List.filter_sublist
  | before boundary =>
      change ((Source.arrange (some l.order.reversed) (Source.select
        (l.filter.and (l.order.reversed.keyset boundary)) rows)).take l.size).reverse.Sublist _
      rw [arrange_reversed_select_and hl hrows, ← List.reverse_sublist, List.reverse_reverse]
      exact (List.take_sublist _ _).trans (List.reverse_sublist.mpr List.filter_sublist)

theorem data_sublist (hl : l.Sound) (hrows : l.Regular rows) {base : Fetch}
    {before after : Option String} {page : Page α} (h : l.page base before after rows = .ok page) :
    page.data.Sublist (l.sorted rows) := by
  rw [page_eq hl] at h
  split at h
  next => cases h
  next spot _ =>
    by_cases hnil : l.sorted rows = []
    · rw [run_of_sorted_eq_nil spot base hnil] at h
      cases h
      exact List.nil_sublist _
    · rw [run_eq_ends l spot base hnil] at h
      obtain ⟨-, -, hdata, -⟩ := ends_eq_ok.mp h
      rw [hdata]
      exact answer_sublist hl hrows spot base

end Listing

namespace Evaluator

variable {m : Type → Type} [Monad m] {α : Type} [Queryable α]

/-- The page of a request by cursor in an order. -/
def pageInOrder (e : Evaluator m α) (order : SortOrder) (spec : Specification)
    (request : CursorRequest) : m (Except QueryError (Page α)) :=
  match KeysetPager.create spec.predicate order (e.config.clamp request.size) request.before
      request.after e.codec with
  | .error error => return .error error
  | .ok pager => pager.run e.source (base spec)

/-- What the requests for the pages of a specification in an order have in common. -/
def listing (e : Evaluator m α) (order : SortOrder) (spec : Specification) (size : Nat) : Listing :=
  ⟨spec.predicate, order, e.config.clamp size, e.codec⟩

theorem run_pageInOrder {e : Evaluator Id α} {rows : List α} (he : e.source = Source.ofList rows)
    (order : SortOrder) (spec : Specification) (request : CursorRequest) :
    (e.pageInOrder order spec request).run =
      (e.listing order spec request.size).page (base spec) request.before request.after rows := by
  rw [pageInOrder, Listing.page, he, listing]
  cases KeysetPager.create spec.predicate order (e.config.clamp request.size) request.before
    request.after e.codec <;> rfl

end Evaluator

/-- **Compiled orders are fixed points of printing and compiling.** Where no name is empty or holds
a comma, the text of a compiled order and its tie-breaker compile to the order again. So a page by
cursor whose request has neither a sort nor a tie-breaker is the page in the order of the
specification, whatever the source is. Over a list, its rows stand as the specification lists them,
each before the next. -/
theorem SortOrder.fixed_point {schema : Schema} (hnamed : schema.Named SortOrder.Spellable)
    {text : String} {tieBreaker : Option String} {order : SortOrder}
    (h : SortOrder.compile schema text tieBreaker = .ok order) :
    SortOrder.compile schema order.text order.tieBreaker = .ok order ∧
    ∀ (spec : Specification) (request : CursorRequest), spec.sort = some order →
      order.tieBreaker.isSome → (∀ sort ∈ request.sort, Text.isBlank sort = true) →
      Text.isBlank request.uniqueSort = true →
      (∀ {m : Type → Type} [Monad m] {α : Type} [Queryable α] (e : Evaluator m α),
        e.paginateCursor schema spec request = e.pageInOrder order spec request) ∧
      ∀ {α : Type} [Queryable α] (e : Evaluator Id α) (rows : List α) (page : Page α),
        e.source = Source.ofList rows → (e.listing order spec request.size).Regular rows →
        (e.paginateCursor schema spec request).run = .ok page →
        page.data.Sublist (e.list spec).run ∧ page.data.Pairwise fun a b =>
          order.compare (Queryable.record a) (Queryable.record b) = .lt := by
  refine ⟨compile_again hnamed h, fun spec request hspec htie hsort hunique => ?_⟩
  have hpage : ∀ {m : Type → Type} [Monad m] {α : Type} [Queryable α] (e : Evaluator m α),
      e.paginateCursor schema spec request = e.pageInOrder order spec request := by
    intro m _ α _ e
    rw [Evaluator.paginateCursor, Evaluator.pager,
      keysetSort_again hnamed h hspec htie hsort hunique]
    rfl
  refine ⟨hpage, fun e rows page he hrows hrun => ?_⟩
  rw [hpage, Evaluator.run_pageInOrder he] at hrun
  have hsize : e.config.clamp request.size ≠ 0 := by
    intro hzero
    rw [Listing.page, Evaluator.listing, hzero, KeysetPager.create, if_pos rfl] at hrun
    cases hrun
  have hl : (e.listing order spec request.size).Sound :=
    Listing.sound_of_compile h htie (Nat.pos_of_ne_zero hsize)
  have hlist : (e.list spec).run = (e.listing order spec request.size).sorted rows := by
    rw [Evaluator.list, he, Evaluator.base, hspec]
    rfl
  have hdata := Listing.data_sublist hl hrows hrun
  rw [hlist]
  exact ⟨hdata, (Listing.sorted_pairwise_lt hl hrows).sublist hdata⟩

namespace Event

def ofPair : Evaluator Id Event := ⟨Source.ofList pair, {}, ⟨[]⟩⟩

/-- Two events on one page, in the order of their times. -/
theorem fixed_point_pair :
    schema.Named SortOrder.Spellable ∧
      SortOrder.compile schema listing.order.text listing.order.tieBreaker = .ok listing.order ∧
      ∃ page, (ofPair.paginateCursor schema { sort := some listing.order } { size := 2 }).run =
          .ok page ∧
        page.data.Sublist (ofPair.list { sort := some listing.order }).run ∧
        page.data.length = 2 := by
  have hnamed : schema.Named SortOrder.Spellable := by
    constructor <;> simp [schema, idField, timeField, SortOrder.Spellable]
  obtain ⟨hagain, hpages⟩ := SortOrder.fixed_point hnamed compile_order
  obtain ⟨-, hlist⟩ := hpages { sort := some listing.order } { size := 2 } rfl rfl (by simp)
    (by decide)
  have hlength : (ofPair.paginateCursor schema { sort := some listing.order }
      { size := 2 }).run.toOption.map (fun page => page.data.length) = some 2 := by
    decide +kernel
  obtain ⟨page, hpage, htwo⟩ := toOption_map_eq_some.mp hlength
  have hrows : listing.Regular pair := regular (by decide)
  obtain ⟨hdata, -⟩ := hlist ofPair pair page rfl ⟨hrows.fits, hrows.distinct⟩ hpage
  exact ⟨hnamed, hagain, page, hpage, hdata, htwo⟩

end Event

end RecordQuery
