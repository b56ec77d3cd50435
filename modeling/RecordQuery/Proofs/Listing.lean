import RecordQuery.Keyset
import RecordQuery.Proofs.KeyOrder
import RecordQuery.Proofs.Sorting

/-!
# Pages of a listing

A listing is what stays the same from one request by cursor to the next: the filter, the order, the
size of pages and the codec. Over a list of rows it stands for one ascending list, and a page is a
stretch of that list. The tokens of a page are those of its first and last row, each as long as
there is a row beyond.
-/

namespace RecordQuery

theorem Source.select_and {α : Type} [Queryable α] (filter f : Filter) (rows : List α) :
    select (filter.and f) rows =
      (select filter rows).filter fun row => f.accepts (Queryable.record row) := by
  rw [select, select, List.filter_filter]
  refine List.filter_congr fun row _ => ?_
  rw [Filter.accepts, Filter.holds_and, Bool.and_comm]
  rfl

/-- A pager is made of a positive size, an order with a tie-breaker and tokens that stand for a
position. -/
theorem KeysetPager.create_eq_ok {filter : Filter} {order : SortOrder} {size : Nat}
    {before after : Option String} {codec : Codec} {pager : KeysetPager} :
    create filter order size before after codec = .ok pager ↔
      size ≠ 0 ∧ order.tieBreaker.isSome ∧
        ∃ position, readPosition filter order before after codec = .ok position ∧
          ⟨filter, order, size, position, codec⟩ = pager := by
  rw [create]
  by_cases hsize : size = 0
  · simp [hsize]
  rw [if_neg hsize]
  by_cases htie : order.tieBreaker.isNone = true
  · simp_all
  rw [if_neg htie]
  have hsome : order.tieBreaker.isSome = true := by
    simpa [Option.isNone_iff_eq_none, Option.isSome_iff_ne_none] using htie
  cases readPosition filter order before after codec with
  | error error => simp [bind, Except.bind]
  | ok position => simp [bind, Except.bind, hsize, hsome]

/-- What the requests of one walk through pages have in common. -/
structure Listing where
  filter : Filter
  order : SortOrder
  size : Nat
  codec : Codec

namespace Listing

variable {α : Type} [Queryable α]

/-- The answer to a request by cursor over the rows of a list. -/
def page (l : Listing) (base : Fetch) (before after : Option String) (rows : List α) :
    Except QueryError (Page α) :=
  match KeysetPager.create l.filter l.order l.size before after l.codec with
  | .error error => .error error
  | .ok pager => Id.run (pager.run (Source.ofList rows) base)

/-- The rows that satisfy the filter, as they stand. -/
def matching (l : Listing) (rows : List α) : List α :=
  Source.select l.filter rows

/-- The rows that satisfy the filter, in order. -/
def sorted (l : Listing) (rows : List α) : List α :=
  Source.arrange (some l.order) (l.matching rows)

def token (l : Listing) (row : α) : Except QueryError String :=
  l.codec.encode (.capture (Queryable.record row) l.order)

/-- A compiled order with a tie-breaker, and pages of at least one row. -/
structure Sound (l : Listing) : Prop where
  wellFormed : l.order.WellFormed
  tie : l.order.tieBreaker.isSome
  size : 1 ≤ l.size

theorem sound_of_compile {l : Listing} {schema : Schema} {sort : String} {tie : Option String}
    (hcompile : SortOrder.compile schema sort tie = .ok l.order)
    (htie : l.order.tieBreaker.isSome) (hsize : 1 ≤ l.size) : l.Sound :=
  ⟨SortOrder.wellFormed_of_compile hcompile, htie, hsize⟩

/-- The keys of the matching rows are absent or of their declared kinds, and no two of the rows
have equal values of the tie-breaker. -/
structure Regular (l : Listing) (rows : List α) : Prop where
  fits : ∀ row ∈ l.matching rows, l.order.Fits (Queryable.record row)
  distinct : (l.matching rows).Pairwise fun a b =>
    ∀ key ∈ l.order.keys, l.order.tieBreaker = some key.path.text →
      (key.path.read (Queryable.record a)).compare? (key.path.read (Queryable.record b)) ≠ some .eq

/-- Rows with different numbers in the field of the tie-breaker are regular. -/
theorem regular_of_numbers {l : Listing} {rows : List α} (number : α → Int64)
    (hfits : ∀ row ∈ l.matching rows, l.order.Fits (Queryable.record row))
    (hread : ∀ key ∈ l.order.keys, l.order.tieBreaker = some key.path.text →
      ∀ row, key.path.read (Queryable.record row) = .number (.signed (number row)))
    (hdistinct : ((l.matching rows).map number).Nodup) : l.Regular rows := by
  refine ⟨hfits, (List.pairwise_map.mp hdistinct).imp ?_⟩
  intro a b hne key hkey htie
  rw [hread key hkey htie a, hread key hkey htie b]
  simpa [Value.compare?, Number.compare?, Int64.toInt_inj] using hne

/-! ### The ascending list of rows -/

def compare (l : Listing) (a b : α) : Ordering :=
  l.order.tupleCompare (Queryable.record a) (Queryable.record b)

instance (l : Listing) : Std.TransCmp (l.compare (α := α)) :=
  transCmp_comap l.order.tupleCompare Queryable.record

theorem compare_self (l : Listing) (a : α) : l.compare a a = .eq :=
  @Std.ReflCmp.compare_self α l.compare _ a

theorem compare_eq {l : Listing} {a b : α} (ha : l.order.Fits (Queryable.record a))
    (hb : l.order.Fits (Queryable.record b)) :
    l.order.compare (Queryable.record a) (Queryable.record b) = l.compare a b :=
  SortOrder.compare_eq_tupleCompare ha hb

theorem pairwise_lt {l : Listing} {rows : List α} (hrows : Ascending l.compare rows)
    (hfits : ∀ row ∈ rows, l.order.Fits (Queryable.record row)) :
    rows.Pairwise fun a b => l.order.compare (Queryable.record a) (Queryable.record b) = .lt := by
  refine hrows.imp_of_mem ?_
  intro a b ha hb hlt
  rw [compare_eq (hfits a ha) (hfits b hb)]
  exact hlt

theorem compareKeys_ne_eq {keys : List SortKey} {key : SortKey} (hkey : key ∈ keys)
    {a b : Record} (hne : key.compare a b ≠ .eq) : SortOrder.compareKeys a b keys ≠ .eq := by
  induction keys with
  | nil => cases hkey
  | cons k keys ih =>
      rw [SortOrder.compareKeys, Ne, Ordering.then_eq_eq]
      rintro ⟨hk, hkeys⟩
      rcases List.mem_cons.mp hkey with rfl | hkey
      · exact hne hk
      · exact ih hkey hkeys

theorem untied_matching {l : Listing} (hl : l.Sound) {rows : List α} (hrows : l.Regular rows) :
    Untied l.compare (l.matching rows) := by
  obtain ⟨text, htext⟩ := Option.isSome_iff_exists.mp hl.tie
  obtain ⟨key, hkey, hpath⟩ := hl.wellFormed.tie text htext
  refine hrows.distinct.imp_of_mem ?_
  intro a b ha hb hdistinct
  have hfa := hrows.fits a ha
  have hfb := hrows.fits b hb
  rw [← compare_eq hfa hfb]
  refine compareKeys_ne_eq hkey ?_
  have hne := hdistinct key hkey (by rw [htext, hpath])
  rw [Value.compare?_eq_order (hfa key hkey) (hfb key hkey)] at hne
  rw [SortKey.compare, Value.compare?_eq_order (hfa key hkey) (hfb key hkey)]
  intro heq
  apply hne
  generalize Value.order _ _ = ordering at heq ⊢
  cases hdir : key.dir <;> cases ordering <;> simp_all [Direction.apply]

theorem arrange_eq_stableSort {l : Listing} {rows : List α}
    (hfits : ∀ row ∈ rows, l.order.Fits (Queryable.record row)) :
    Source.arrange (some l.order) rows = stableSort (fun a b => l.compare a b == .lt) rows := by
  refine stableSort_congr fun a ha b hb => ?_
  rw [compare_eq (hfits a ha) (hfits b hb)]

theorem arrange_reversed {l : Listing} {rows : List α}
    (hfits : ∀ row ∈ rows, l.order.Fits (Queryable.record row)) :
    Source.arrange (some l.order.reversed) rows =
      stableSort (fun a b => l.compare b a == .lt) rows := by
  refine stableSort_congr fun a ha b hb => ?_
  rw [SortOrder.compare_eq_tupleCompare (SortOrder.fits_reversed (hfits a ha))
    (SortOrder.fits_reversed (hfits b hb)), SortOrder.tupleCompare_reversed]
  rfl

theorem sorted_perm (l : Listing) (rows : List α) : (l.sorted rows).Perm (l.matching rows) :=
  stableSort_perm _ _

theorem mem_sorted {l : Listing} {rows : List α} {row : α} :
    row ∈ l.sorted rows ↔ row ∈ l.matching rows :=
  (l.sorted_perm rows).mem_iff

theorem fits_of_mem_sorted {l : Listing} {rows : List α} (hrows : l.Regular rows) {row : α}
    (hrow : row ∈ l.sorted rows) : l.order.Fits (Queryable.record row) :=
  hrows.fits row (mem_sorted.mp hrow)

theorem sorted_ascending {l : Listing} (hl : l.Sound) {rows : List α} (hrows : l.Regular rows) :
    Ascending l.compare (l.sorted rows) := by
  rw [sorted, arrange_eq_stableSort hrows.fits]
  exact stableSort_ascending (untied_matching hl hrows)

theorem select_and (l : Listing) (f : Filter) (rows : List α) :
    Source.select (l.filter.and f) rows =
      (l.matching rows).filter fun row => f.accepts (Queryable.record row) :=
  Source.select_and l.filter f rows

theorem sorted_pairwise_lt {l : Listing} (hl : l.Sound) {rows : List α} (hrows : l.Regular rows) :
    (l.sorted rows).Pairwise fun a b =>
      l.order.compare (Queryable.record a) (Queryable.record b) = .lt :=
  pairwise_lt (sorted_ascending hl hrows) fun _ => fits_of_mem_sorted hrows

theorem arrange_select_and {l : Listing} (hl : l.Sound) {rows : List α} (hrows : l.Regular rows)
    (f : Filter) :
    Source.arrange (some l.order) (Source.select (l.filter.and f) rows) =
      (l.sorted rows).filter fun row => f.accepts (Queryable.record row) := by
  rw [select_and, sorted, arrange_eq_stableSort hrows.fits,
    arrange_eq_stableSort fun row hrow => hrows.fits row (List.mem_of_mem_filter hrow)]
  exact stableSort_filter _ (untied_matching hl hrows)

theorem arrange_reversed_eq_reverse {l : Listing} (hl : l.Sound) {rows : List α}
    (hrows : l.Regular rows) :
    Source.arrange (some l.order.reversed) (l.matching rows) = (l.sorted rows).reverse := by
  rw [arrange_reversed hrows.fits, sorted, arrange_eq_stableSort hrows.fits]
  exact stableSort_opposite (untied_matching hl hrows)

theorem arrange_reversed_select_and {l : Listing} (hl : l.Sound) {rows : List α}
    (hrows : l.Regular rows) (f : Filter) :
    Source.arrange (some l.order.reversed) (Source.select (l.filter.and f) rows) =
      ((l.sorted rows).filter fun row => f.accepts (Queryable.record row)).reverse := by
  have hfits : ∀ row ∈ (l.matching rows).filter fun row => f.accepts (Queryable.record row),
      l.order.Fits (Queryable.record row) :=
    fun row hrow => hrows.fits row (List.mem_of_mem_filter hrow)
  rw [← arrange_select_and hl hrows, select_and, arrange_reversed hfits,
    arrange_eq_stableSort hfits]
  exact stableSort_opposite ((untied_matching hl hrows).sublist List.filter_sublist)

end Listing

/-! ### Events -/

/-- A row to try listings on. -/
structure Event where
  id : Int64
  time : Int64
  deriving DecidableEq

namespace Event

def record (e : Event) : Record :=
  [("id", .number (.signed e.id)), ("at", .timestamp ⟨e.time⟩)]

instance : Queryable Event := ⟨record⟩

def idField : Field where
  name := "id"
  kind := .number

def timeField : Field where
  name := "at"
  kind := .timestamp
  nullable := true

def schema : Schema := ⟨[], ⟨"Event", [idField, timeField]⟩⟩

/-- All events in the order of their times, one on each page. -/
def listing : Listing :=
  ⟨.all [], ⟨[⟨⟨[], timeField⟩, .asc⟩, ⟨⟨[], idField⟩, .asc⟩], some "id"⟩, 1, ⟨[]⟩⟩

/-- Two events, the later one first. -/
def pair : List Event := [⟨2, 2000⟩, ⟨1, 1000⟩]

def fetch : Fetch := ⟨.all [], none, 0, none, [], false, false⟩

theorem compile_order : SortOrder.compile schema "at" (some "id") = .ok listing.order := by
  cbv

theorem matching_eq (rows : List Event) : listing.matching rows = rows :=
  List.filter_eq_self.mpr fun _ _ => rfl

theorem mem_keys {key : SortKey} (hkey : key ∈ listing.order.keys) :
    key = ⟨⟨[], timeField⟩, .asc⟩ ∨ key = ⟨⟨[], idField⟩, .asc⟩ := by
  simpa [listing] using hkey

theorem fits (e : Event) : listing.order.Fits (Queryable.record e) := by
  intro key hkey
  rcases mem_keys hkey with rfl | rfl
  · exact .timestamp _
  · exact .signed _

theorem regular {rows : List Event} (h : (rows.map id).Nodup) : listing.Regular rows := by
  apply Listing.regular_of_numbers id
  · exact fun e _ => fits e
  · intro key hkey htie e
    rcases mem_keys hkey with rfl | rfl
    · exact absurd (Option.some.inj htie) (by decide)
    · rfl
  · rwa [matching_eq]

end Event

end RecordQuery
