import RecordQuery.Proofs.NumberedPages
import RecordQuery.Proofs.Places
import RecordQuery.Proofs.Walk

/-!
# Complete walks

Over rows that do not change, a forward walk returns the list page by page. It gets from one page to
the next exactly when the last row of the page is readable.
-/

namespace RecordQuery

namespace Listing

variable {α : Type} [Queryable α]

/-- How many pages the list has. An empty list has one. -/
def pageCount (l : Listing) (rows : List α) : Nat :=
  max 1 (Paging.totalPages (l.matching rows).length l.size)

/-- As many pages of the list as given, from the page with a number on. -/
def pagesFrom (l : Listing) (rows : List α) (j count : Nat) : List (Page α) :=
  (List.range' j count).map fun i => l.pageAt rows (i * l.size)

/-- The row at a place, if there is one, is readable. -/
def ReadableAt (l : Listing) (rows : List α) (i : Nat) : Prop :=
  ∀ row ∈ (l.sorted rows)[i]?, l.Readable row

theorem readableAt_of_forall {l : Listing} {rows : List α}
    (h : ∀ row ∈ l.matching rows, l.Readable row) (i : Nat) : l.ReadableAt rows i :=
  fun row hrow => h row (mem_sorted.mp (List.mem_of_getElem? hrow))

section Count

variable {l : Listing} {rows : List α}

theorem readableAt_iff {i : Nat} {row : α} (hrow : (l.sorted rows)[i]? = some row) :
    l.ReadableAt rows i ↔ l.Readable row := by
  simp [ReadableAt, hrow]

theorem length_sorted : (l.sorted rows).length = (l.matching rows).length :=
  (l.sorted_perm rows).length_eq

theorem lt_pageCount_iff (hl : l.Sound) {j : Nat} (hj : 0 < j) :
    j < l.pageCount rows ↔ j * l.size < (l.sorted rows).length := by
  rw [length_sorted, ← Paging.lt_totalPages_iff hl.size, pageCount]
  omega

theorem length_le_pageCount_mul (hl : l.Sound) :
    (l.sorted rows).length ≤ l.pageCount rows * l.size := by
  have hpos : 0 < l.pageCount rows := Nat.lt_of_lt_of_le Nat.one_pos (Nat.le_max_left ..)
  rw [← Nat.not_lt, ← lt_pageCount_iff hl hpos]
  exact Nat.lt_irrefl _

theorem length_pagesFrom (l : Listing) (rows : List α) (j count : Nat) :
    (l.pagesFrom rows j count).length = count := by
  rw [pagesFrom, List.length_map, List.length_range']

theorem pagesFrom_succ (l : Listing) (rows : List α) (j count : Nat) :
    l.pagesFrom rows j (count + 1) =
      l.pageAt rows (j * l.size) :: l.pagesFrom rows (j + 1) count :=
  rfl

theorem pagesFrom_concat (l : Listing) (rows : List α) (j count : Nat) :
    l.pagesFrom rows j (count + 1) =
      l.pagesFrom rows j count ++ [l.pageAt rows ((j + count) * l.size)] := by
  rw [pagesFrom, List.range'_concat, List.map_append, Nat.one_mul]
  rfl

/-- The rows of consecutive pages are a stretch of the list. -/
theorem take_pagesFrom (l : Listing) (rows : List α) (j count limit : Nat) :
    (l.pagesFrom rows j count).take limit = l.pagesFrom rows j (min limit count) := by
  rw [pagesFrom, ← List.map_take, pagesFrom]
  rcases Nat.le_total limit count with hle | hle
  · rw [List.take_range'_of_length_ge hle, Nat.min_eq_left hle]
  · rw [List.take_range'_of_length_le hle, Nat.min_eq_right hle]

theorem flatMap_pagesFrom (l : Listing) (rows : List α) (count : Nat) :
    (l.pagesFrom rows 0 count).flatMap Page.data = (l.sorted rows).take (count * l.size) := by
  rw [pagesFrom, List.flatMap_map, ← List.range_eq_range']
  exact Paging.flatMap_stretch _ _ _

theorem flatMap_pages (hl : l.Sound) :
    (l.pagesFrom rows 0 (l.pageCount rows)).flatMap Page.data = l.sorted rows := by
  rw [flatMap_pagesFrom, List.take_of_length_le (length_le_pageCount_mul hl)]

theorem last_page_after (hl : l.Sound) :
    ∀ page ∈ (l.pagesFrom rows 0 (l.pageCount rows)).getLast?, page.paging.after = none := by
  obtain ⟨count, hcount⟩ : ∃ count, l.pageCount rows = count + 1 :=
    Nat.exists_eq_succ_of_ne_zero (by rw [pageCount]; omega)
  have hlength : (l.sorted rows).length ≤ l.pageCount rows * l.size :=
    length_le_pageCount_mul hl
  rw [hcount, Nat.succ_mul] at hlength
  intro page hpage
  rw [hcount, pagesFrom_concat, List.getLast?_concat, Nat.zero_add] at hpage
  obtain rfl := Option.some.inj hpage
  exact pageAt_after_eq_none hlength

end Count

section Forward

variable {l : Listing} {rows : List α} (hl : l.Sound) (hcodec : l.codec.Invertible)
  (hrows : l.Regular rows) (hnamed : l.Named rows) (hshort : l.Short rows)

include hl

theorem exists_last_row {j : Nat} (hnext : j + 1 < l.pageCount rows) :
    ∃ row, (l.sorted rows)[(j + 1) * l.size - 1]? = some row ∧
      (l.pageAt rows (j * l.size)).paging.after = some (l.mark row) := by
  have hlt : (j + 1) * l.size < (l.sorted rows).length :=
    (lt_pageCount_iff hl j.succ_pos).mp hnext
  obtain ⟨row, hrow⟩ : ∃ row, (l.sorted rows)[(j + 1) * l.size - 1]? = some row :=
    ⟨_, List.getElem?_eq_getElem (by omega)⟩
  refine ⟨row, hrow, ?_⟩
  rw [Nat.succ_mul] at hlt hrow
  exact pageAt_after hl hrow hlt

theorem pageAt_last_after {j : Nat} (hlast : l.pageCount rows ≤ j + 1) :
    (l.pageAt rows (j * l.size)).paging.after = none := by
  refine pageAt_after_eq_none ?_
  rw [← Nat.succ_mul, ← Nat.not_lt, ← lt_pageCount_iff hl j.succ_pos]
  exact Nat.not_lt.mpr hlast

include hcodec hrows hnamed hshort

theorem page_after_last_row (base : Fetch) {j : Nat} {row : α}
    (hrow : (l.sorted rows)[(j + 1) * l.size - 1]? = some row) {page : Page α} :
    l.page base none (some (l.mark row)) rows = .ok page ↔
      l.ReadableAt rows ((j + 1) * l.size - 1) ∧ l.pageAt rows ((j + 1) * l.size) = page := by
  have hpos : 0 < (j + 1) * l.size := Nat.mul_pos j.succ_pos hl.size
  rw [page_after_eq_pageAt hl hcodec hrows hnamed hshort hrow, readableAt_iff hrow,
    Nat.sub_add_cancel hpos]

/-- **How a forward walk over unchanged rows goes on** from a page of the list: with the pages from
there on, if the rows that end the pages in between are readable. -/
theorem forwardOn_eq_ok (base : Fetch) (limit j : Nat) (pages : List (Page α)) :
    l.forwardOn base (l.pageAt rows (j * l.size)).paging (List.replicate limit rows) = .ok pages ↔
      (∀ i, j < i → i ≤ j + limit → i < l.pageCount rows → l.ReadableAt rows (i * l.size - 1)) ∧
        l.pagesFrom rows (j + 1) (min limit (l.pageCount rows - (j + 1))) = pages := by
  -- on the requests that are left; each one moves on by one page or ends the walk
  induction limit generalizing j pages with
  | zero =>
      have hnone : ∀ i, j < i → i ≤ j + 0 → i < l.pageCount rows →
          l.ReadableAt rows (i * l.size - 1) := fun i hi hle => by omega
      rw [List.replicate_zero, forwardOn, walkOn_nil, Nat.zero_min, Except.ok.injEq]
      exact (and_iff_right hnone).symm
  | succ limit ih =>
      rw [List.replicate_succ, forwardOn, walkOn]
      by_cases hnext : j + 1 < l.pageCount rows
      · obtain ⟨row, hrow, hafter⟩ := exists_last_row hl hnext
        have hcount : min (limit + 1) (l.pageCount rows - (j + 1)) =
            min limit (l.pageCount rows - (j + 1 + 1)) + 1 := by omega
        rw [hafter, hcount, pagesFrom_succ]
        dsimp only
        rw [walk_cons_eq_ok]
        constructor
        · rintro ⟨page, following, hpage, hfollowing, rfl⟩
          obtain ⟨hreadable, rfl⟩ :=
            (page_after_last_row hl hcodec hrows hnamed hshort base hrow).mp hpage
          obtain ⟨hbetween, rfl⟩ := (ih (j + 1) _).mp hfollowing
          refine ⟨?_, rfl⟩
          intro i hi hle hlt
          rcases Nat.eq_or_lt_of_le (Nat.succ_le_of_lt hi) with rfl | hi
          · exact hreadable
          · exact hbetween i hi (by omega) hlt
        · rintro ⟨hbetween, rfl⟩
          have hreadable := hbetween (j + 1) (by omega) (by omega) hnext
          have hpage := (page_after_last_row hl hcodec hrows hnamed hshort base hrow).mpr
            ⟨hreadable, rfl⟩
          refine ⟨_, _, hpage, (ih (j + 1) _).mpr ⟨?_, rfl⟩, rfl⟩
          intro i hi hle
          exact hbetween i (by omega) (by omega)
      · have hnone : ∀ i, j < i → i ≤ j + (limit + 1) → i < l.pageCount rows →
            l.ReadableAt rows (i * l.size - 1) := fun i hi _ hlt => by omega
        rw [pageAt_last_after hl (by omega), Nat.sub_eq_zero_of_le (by omega), Nat.min_zero,
          Except.ok.injEq]
        exact (and_iff_right hnone).symm

theorem forward_eq_ok (base : Fetch) (limit : Nat) {pages : List (Page α)} :
    l.forward base none (List.replicate (limit + 1) rows) = .ok pages ↔
      (∀ i, 0 < i → i ≤ limit → i < l.pageCount rows → l.ReadableAt rows (i * l.size - 1)) ∧
        l.pagesFrom rows 0 (min (limit + 1) (l.pageCount rows)) = pages := by
  have hstart : l.page base none none rows = .ok (l.pageAt rows (0 * l.size)) := by
    rw [Nat.zero_mul]
    exact page_start_eq_pageAt hl hcodec hrows hnamed base
  have hcount : min (limit + 1) (l.pageCount rows) =
      min limit (l.pageCount rows - (0 + 1)) + 1 := by
    have hpos : 0 < l.pageCount rows := Nat.lt_of_lt_of_le Nat.one_pos (Nat.le_max_left ..)
    omega
  have hon := fun rest => forwardOn_eq_ok hl hcodec hrows hnamed hshort base limit 0 rest
  simp only [Nat.zero_add] at hon
  rw [List.replicate_succ, forward, walk_cons_eq_ok, hcount, pagesFrom_succ]
  constructor
  · rintro ⟨page, rest, hpage, hrest, rfl⟩
    rw [hstart] at hpage
    obtain rfl := Except.ok.inj hpage
    obtain ⟨hbetween, rfl⟩ := (hon rest).mp hrest
    exact ⟨hbetween, rfl⟩
  · rintro ⟨hbetween, rfl⟩
    exact ⟨_, _, hstart, (hon _).mpr ⟨hbetween, rfl⟩, rfl⟩

/-- The walk returns all pages of the list exactly when the rows that end them are readable. -/
theorem forward_pages_iff (base : Fetch) :
    (∀ limit, l.forward base none (List.replicate limit rows) =
        .ok ((l.pagesFrom rows 0 (l.pageCount rows)).take limit)) ↔
      ∀ i, 0 < i → i * l.size < (l.matching rows).length → l.ReadableAt rows (i * l.size - 1) := by
  constructor
  · intro hforward i hi hlt
    obtain ⟨count, hcount⟩ : ∃ count, l.pageCount rows = count + 1 :=
      Nat.exists_eq_succ_of_ne_zero (by rw [pageCount]; omega)
    have hpages := hforward (count + 1)
    rw [← length_sorted, ← lt_pageCount_iff hl hi] at hlt
    have hbetween := ((forward_eq_ok hl hcodec hrows hnamed hshort base count).mp hpages).1
    exact hbetween i hi (by omega) hlt
  · rintro hreadable (_ | limit)
    · rfl
    rw [forward_eq_ok hl hcodec hrows hnamed hshort, take_pagesFrom]
    refine ⟨?_, rfl⟩
    intro i hi _ hlt
    rw [lt_pageCount_iff hl hi, length_sorted] at hlt
    exact hreadable i hi hlt

/-- A walk that is not cut off returns all pages of the list. -/
theorem eq_pagesFrom_of_forward {base : Fetch} {pages : List (Page α)}
    (h : ∀ limit, l.forward base none (List.replicate limit rows) = .ok (pages.take limit)) :
    pages = l.pagesFrom rows 0 (l.pageCount rows) := by
  have hpages : ∀ limit, l.pagesFrom rows 0 (min (limit + 1) (l.pageCount rows)) =
      pages.take (limit + 1) := fun limit =>
    ((forward_eq_ok hl hcodec hrows hnamed hshort base limit).mp (h (limit + 1))).2
  have hall := hpages (l.pageCount rows + pages.length)
  rw [Nat.min_eq_right (by omega), List.take_of_length_le (by omega)] at hall
  exact hall.symm

end Forward

/-- **A forward walk is complete** exactly when the rows that end its pages are readable. It then
stops after the number of pages that hold all rows, and has returned each matching row once, in
ascending order. -/
theorem forward_complete_iff {l : Listing} {schema : Schema} {sort : String} {tie : Option String}
    (hcompile : SortOrder.compile schema sort tie = .ok l.order)
    (htie : l.order.tieBreaker.isSome) (hsize : 1 ≤ l.size) (hcodec : l.codec.Invertible)
    {rows : List α} (hrows : l.Regular rows) (hnamed : l.Named rows) (hshort : l.Short rows)
    (base : Fetch) :
    (∃ pages : List (Page α),
      (∀ limit, l.forward base none (List.replicate limit rows) = .ok (pages.take limit)) ∧
      (∀ page ∈ pages.getLast?, page.paging.after = none) ∧
      pages.length = max 1 (Paging.totalPages (l.matching rows).length l.size) ∧
      (pages.flatMap Page.data).Perm (l.matching rows) ∧
      (pages.flatMap Page.data).Pairwise fun a b =>
        l.order.compare (Queryable.record a) (Queryable.record b) = .lt) ↔
    ∀ i, 0 < i → i * l.size < (l.matching rows).length → l.ReadableAt rows (i * l.size - 1) := by
  have hl := sound_of_compile hcompile htie hsize
  rw [← forward_pages_iff hl hcodec hrows hnamed hshort base]
  constructor
  · rintro ⟨pages, hforward, -⟩
    rw [← eq_pagesFrom_of_forward hl hcodec hrows hnamed hshort hforward]
    exact hforward
  · intro hforward
    refine ⟨l.pagesFrom rows 0 (l.pageCount rows), hforward, last_page_after hl, ?_, ?_, ?_⟩
    · exact length_pagesFrom l rows 0 _
    · rw [flatMap_pages hl]
      exact l.sorted_perm rows
    · rw [flatMap_pages hl]
      exact sorted_pairwise_lt hl hrows

end Listing

namespace Event

theorem forward_pair :
    ∃ pages : List (Page Event), (∀ limit,
        listing.forward fetch none (List.replicate limit pair) = .ok (pages.take limit)) ∧
      pages.length = 2 ∧ (pages.flatMap Page.data).Perm pair := by
  have hrows : listing.Regular pair := regular (by decide)
  have hshort : listing.Short pair := by decide +kernel
  have hreadable := readable_of_mem (by decide +kernel : ∀ e ∈ pair, (Timestamp.mk e.time).Readable)
  obtain ⟨pages, hforward, -, hlength, hperm, -⟩ :=
    (Listing.forward_complete_iff compile_order rfl (by decide) invertible hrows (named pair) hshort
      fetch).mpr fun i _ _ => Listing.readableAt_of_forall hreadable _
  rw [matching_eq] at hlength hperm
  exact ⟨pages, hforward, hlength, hperm⟩

/-- Two events in the year 10000, whose times are written with a sign and five digits. -/
def late : List Event := [⟨1, 253402300800000⟩, ⟨2, 253402300800001⟩]

/-- The token of the first late event is not accepted. -/
theorem forward_late_ne_ok (base : Fetch) :
    ¬∃ pages, listing.forward base none (List.replicate 2 late) = .ok pages := by
  have hl := Listing.sound_of_compile compile_order rfl (by decide : 1 ≤ listing.size)
  have hrows : listing.Regular late := regular (by decide)
  have hshort : listing.Short late := by decide +kernel
  rintro ⟨pages, hpages⟩
  have hbetween :=
    ((Listing.forward_eq_ok hl invertible hrows (named late) hshort base 1).mp hpages).1
  have hfirst : (listing.sorted late)[0]? = some ⟨1, 253402300800000⟩ := by decide +kernel
  have hreadable := hbetween 1 (by omega) (by omega) (by decide +kernel) _ hfirst
  rw [readable_iff] at hreadable
  exact absurd hreadable (by decide +kernel)

theorem forward_late :
    (listing.Regular late ∧ listing.Named late ∧ listing.Short late) ∧
      ¬∃ pages, listing.forward fetch none (List.replicate 2 late) = .ok pages :=
  ⟨⟨regular (by decide), named late, by decide +kernel⟩, forward_late_ne_ok fetch⟩

end Event

end RecordQuery
