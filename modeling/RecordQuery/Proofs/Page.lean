import RecordQuery.Proofs.Boundary
import RecordQuery.Proofs.Window

/-!
# Pages of requests

A request with any accepted token returns the window of the side that its boundary cuts off, whether
or not the record of the token is still there, and the page has a token at an end exactly when the
list goes on beyond that end.
-/

namespace RecordQuery

namespace Listing

variable {α : Type} [Queryable α] {l : Listing} {rows : List α} {spot : Spot}

theorem spot_fits {before after : Option String} (hspot : l.spot before after = .ok spot)
    (hwhole : spot.Whole) : spot.Fits l.order := by
  rw [Listing.spot] at hspot
  split at hspot
  · cases hspot
  · obtain ⟨boundary, hboundary, rfl⟩ := map_eq_ok.mp hspot
    exact Codec.boundary_fits hboundary hwhole
  · obtain ⟨boundary, hboundary, rfl⟩ := map_eq_ok.mp hspot
    exact Codec.boundary_fits hboundary hwhole
  · cases hspot
    trivial

/-- **A request returns the frame of its window in the list.** -/
theorem page_eq_frame (hl : l.Sound) (hrows : l.Regular rows) {before after : Option String}
    (hspot : l.spot before after = .ok spot) (hfits : spot.Fits l.order) (base : Fetch) :
    l.page base before after rows =
      l.frame (l.above spot rows) (l.window spot rows) (l.below spot rows) := by
  have hanswer := answer_eq_window hl hrows hfits base
  rw [page_eq hl, hspot]
  dsimp only
  rw [← hanswer]
  refine run_eq_frame hl hrows base ?_ ?_
  · rw [hanswer]
    exact sorted_eq_above_window_below hl hrows spot
  · rw [hanswer]
    exact frames_window l spot rows

/-! ### The tokens of a page -/

theorem token?_eq_ok {row : Option α} {token : Option String} :
    l.token? row = .ok token ↔
      (row = none ∧ token = none) ∨ ∃ r t, row = some r ∧ token = some t ∧ l.token r = .ok t := by
  cases row with
  | none => simp [token?, eq_comm]
  | some r =>
      rw [token?, map_eq_ok]
      constructor
      · rintro ⟨t, ht, rfl⟩
        exact Or.inr ⟨r, t, rfl, rfl, ht⟩
      · rintro (⟨⟨⟩, -⟩ | ⟨_, t, ⟨⟩, rfl, ht⟩)
        exact ⟨t, ht, rfl⟩

omit [Queryable α] in
/-- A page is made of the tokens of its ends. -/
theorem ends_eq_ok {previous next : Except QueryError (Option String)} {data : List α}
    {total size : Nat} {page : Page α} :
    (do
      let before ← previous
      let after ← next
      .ok ⟨data, .keyset total size before after⟩ : Except QueryError (Page α)) = .ok page ↔
      previous = .ok page.paging.before ∧ next = .ok page.paging.after ∧ page.data = data ∧
        page.paging = .keyset total size page.paging.before page.paging.after := by
  cases previous with
  | error error => simp [bind, Except.bind]
  | ok before =>
      cases next with
      | error error => simp [bind, Except.bind]
      | ok after =>
          obtain ⟨data, paging⟩ := page
          simp only [bind, Except.bind, Except.ok.injEq, Page.mk.injEq]
          constructor
          · rintro ⟨rfl, rfl⟩
            exact ⟨rfl, rfl, rfl, rfl⟩
          · rintro ⟨rfl, rfl, rfl, hpaging⟩
            exact ⟨rfl, hpaging.symm⟩

theorem frame_eq_ok {above window below : List α} {page : Page α} :
    l.frame above window below = .ok page ↔
      l.token? (if above.isEmpty then none else window.head?) = .ok page.paging.before ∧
        l.token? (if below.isEmpty then none else window.getLast?) = .ok page.paging.after ∧
        page.data = window ∧
        page.paging = .keyset (above.length + window.length + below.length) l.size
          page.paging.before page.paging.after :=
  ends_eq_ok

/-! ### Rows beyond the ends -/

section Beyond

variable {above below : List α} {row : α}

theorem above_ne_nil_iff (hl : l.Sound) (hrows : l.Regular rows)
    (hsorted : l.sorted rows = above ++ row :: below) :
    above ≠ [] ↔ ∃ other ∈ l.matching rows,
      l.order.compare (Queryable.record other) (Queryable.record row) = .lt := by
  have hrow : row ∈ l.sorted rows := by simp [hsorted]
  have hascending := sorted_ascending hl hrows
  rw [hsorted, Ascending, List.pairwise_append] at hascending
  obtain ⟨-, hbelow, habove⟩ := hascending
  constructor
  · intro hne
    obtain ⟨other, hother⟩ := List.exists_mem_of_ne_nil above hne
    have hmem : other ∈ l.sorted rows := by simp [hsorted, hother]
    refine ⟨other, mem_sorted.mp hmem, ?_⟩
    rw [compare_eq (fits_of_mem_sorted hrows hmem) (fits_of_mem_sorted hrows hrow)]
    exact habove other hother row (by simp)
  · rintro ⟨other, hother, hlt⟩ rfl
    have hmem : other ∈ l.sorted rows := mem_sorted.mpr hother
    rw [compare_eq (hrows.fits other hother) (fits_of_mem_sorted hrows hrow)] at hlt
    rw [hsorted, List.nil_append] at hmem
    rcases List.mem_cons.mp hmem with rfl | hmem
    · rw [compare_self] at hlt
      cases hlt
    · exact Std.OrientedCmp.not_lt_of_lt hlt (List.rel_of_pairwise_cons hbelow hmem)

theorem below_ne_nil_iff (hl : l.Sound) (hrows : l.Regular rows)
    (hsorted : l.sorted rows = above ++ row :: below) :
    below ≠ [] ↔ ∃ other ∈ l.matching rows,
      l.order.compare (Queryable.record row) (Queryable.record other) = .lt := by
  have hrow : row ∈ l.sorted rows := by simp [hsorted]
  have hascending := sorted_ascending hl hrows
  rw [hsorted, Ascending, List.pairwise_append] at hascending
  obtain ⟨-, hbelow, habove⟩ := hascending
  constructor
  · intro hne
    obtain ⟨other, hother⟩ := List.exists_mem_of_ne_nil below hne
    have hmem : other ∈ l.sorted rows := by simp [hsorted, hother]
    refine ⟨other, mem_sorted.mp hmem, ?_⟩
    rw [compare_eq (fits_of_mem_sorted hrows hrow) (fits_of_mem_sorted hrows hmem)]
    exact List.rel_of_pairwise_cons hbelow hother
  · rintro ⟨other, hother, hlt⟩ rfl
    have hmem : other ∈ l.sorted rows := mem_sorted.mpr hother
    rw [compare_eq (fits_of_mem_sorted hrows hrow) (hrows.fits other hother)] at hlt
    rw [hsorted] at hmem
    rcases List.mem_append.mp hmem with hmem | hmem
    · exact Std.OrientedCmp.not_lt_of_lt hlt (habove other hmem row (by simp))
    · rw [List.mem_singleton] at hmem
      rw [hmem, compare_self] at hlt
      cases hlt

end Beyond

/-! ### Windows of requests -/

theorem exists_token? {rows : List α} (hencode : ∀ row ∈ rows, ∃ token, l.token row = .ok token)
    (ended : Bool) {row : Option α} (hrow : ∀ r ∈ row, r ∈ rows) :
    ∃ token, l.token? (if ended then none else row) = .ok token := by
  cases ended with
  | true => exact ⟨none, rfl⟩
  | false =>
      cases row with
      | none => exact ⟨none, rfl⟩
      | some r =>
          obtain ⟨token, htoken⟩ := hencode r (hrow r rfl)
          exact ⟨some token, token?_eq_ok.mpr (Or.inr ⟨r, token, rfl, rfl, htoken⟩)⟩

/-- The token at an end of a page: it is the token of the row there, and there is one exactly when
the list goes on. -/
theorem token?_spec {beyond : List α} {row : α} {token : Option String}
    (h : l.token? (if beyond.isEmpty then none else some row) = .ok token) :
    (token.isSome ↔ beyond ≠ []) ∧ ∀ t ∈ token, l.token row = .ok t := by
  cases beyond with
  | nil =>
      cases h
      simp
  | cons other beyond =>
      obtain ⟨t, ht, rfl⟩ := map_eq_ok.mp h
      simp [ht]

/-- **A request returns exactly its window.** With any accepted token, the page holds the rows on
the side of the boundary that are nearest to it, a stretch of the ascending list of matching rows.
A page that is not empty has a token at an end exactly when a matching row lies beyond that end. -/
theorem page_is_window {schema : Schema} {sort : String} {tie : Option String}
    (hcompile : SortOrder.compile schema sort tie = .ok l.order)
    (htie : l.order.tieBreaker.isSome) (hsize : 1 ≤ l.size) (hrows : l.Regular rows)
    (hencode : ∀ row ∈ l.matching rows, ∃ token, l.token row = .ok token)
    {before after : Option String} (hspot : l.spot before after = .ok spot)
    (hwhole : spot.Whole) (base : Fetch) :
    ((l.sorted rows).Perm (l.matching rows) ∧ (l.sorted rows).Pairwise fun a b =>
      l.order.compare (Queryable.record a) (Queryable.record b) = .lt) ∧
    ∃ page, l.page base before after rows = .ok page ∧
      page.data = l.window spot rows ∧
      page.data <:+: l.sorted rows ∧
      (∀ row ∈ page.data, l.filter.accepts (Queryable.record row)) ∧
      page.paging = .keyset (l.matching rows).length l.size page.paging.before page.paging.after ∧
      (∀ first ∈ page.data.head?,
        (page.paging.before.isSome ↔ ∃ other ∈ l.matching rows,
          l.order.compare (Queryable.record other) (Queryable.record first) = .lt) ∧
        ∀ token ∈ page.paging.before, l.token first = .ok token) ∧
      ∀ last ∈ page.data.getLast?,
        (page.paging.after.isSome ↔ ∃ other ∈ l.matching rows,
          l.order.compare (Queryable.record last) (Queryable.record other) = .lt) ∧
        ∀ token ∈ page.paging.after, l.token last = .ok token := by
  have hl := sound_of_compile hcompile htie hsize
  refine ⟨⟨l.sorted_perm rows, sorted_pairwise_lt hl hrows⟩, ?_⟩
  have hpage := page_eq_frame hl hrows hspot (spot_fits hspot hwhole) base
  have hsorted := sorted_eq_above_window_below hl hrows spot
  generalize l.window spot rows = window at hsorted hpage ⊢
  generalize l.above spot rows = above at hsorted hpage
  generalize l.below spot rows = below at hsorted hpage
  have hmem : ∀ row ∈ window, row ∈ l.matching rows := by
    intro row hrow
    exact mem_sorted.mp (by simp [hsorted, hrow])
  have hlength : above.length + window.length + below.length = (l.matching rows).length := by
    rw [← (l.sorted_perm rows).length_eq, hsorted, List.length_append, List.length_append]
  obtain ⟨previous, hprevious⟩ := exists_token? hencode above.isEmpty fun row hrow =>
    hmem row (List.mem_of_mem_head? hrow)
  obtain ⟨next, hnext⟩ := exists_token? hencode below.isEmpty fun row hrow =>
    hmem row (List.mem_of_getLast? hrow)
  refine ⟨⟨window, .keyset (l.matching rows).length l.size previous next⟩, ?_, rfl,
    ⟨above, below, hsorted.symm⟩, ?_, rfl, ?_, ?_⟩
  · rw [hpage, frame_eq_ok, hlength]
    exact ⟨hprevious, hnext, rfl, rfl⟩
  · intro row hrow
    exact (List.mem_filter.mp (hmem row hrow)).2
  · intro first hfirst
    obtain ⟨rest, rfl⟩ := List.head?_eq_some_iff.mp hfirst
    rw [← above_ne_nil_iff hl hrows (by simpa using hsorted)]
    exact token?_spec hprevious
  · intro last hlast
    obtain ⟨rest, rfl⟩ := List.getLast?_eq_some_iff.mp hlast
    have hsplit : l.sorted rows = (above ++ rest) ++ last :: below := by simpa using hsorted
    rw [← below_ne_nil_iff hl hrows hsplit]
    rw [List.getLast?_concat] at hnext
    exact token?_spec hnext

end Listing

namespace Event

/-- The token of the event with the number 1 at the time 1000. -/
def token : String := "eyJhdCI6IjE5NzAtMDEtMDFUMDA6MDA6MDEuMDAwWiIsImlkIjoxfQ"

theorem exists_token {rows : List Event} (h : ∀ e ∈ rows, (listing.token e).toBool = true) :
    ∀ e ∈ listing.matching rows, ∃ token, listing.token e = .ok token := by
  intro e he
  rw [matching_eq] at he
  exact toBool_eq_true.mp (h e he)

theorem page_after_token :
    ∃ page, listing.page fetch none (some token) pair = .ok page ∧
      page.data = [⟨2, 2000⟩] ∧ page.data <:+: listing.sorted pair := by
  have hrows : listing.Regular pair := regular (by decide)
  have hencode : ∀ e ∈ listing.matching pair, ∃ token, listing.token e = .ok token :=
    exists_token (by decide +kernel)
  have hwhole : (listing.spot none (some token)).toOption.all (fun spot => spot.Whole) = true := by
    decide +kernel
  have hdata : (listing.page fetch none (some token) pair).toOption.map Page.data =
      some [⟨2, 2000⟩] := by decide +kernel
  cases hspot : listing.spot none (some token) with
  | error error =>
      have haccepted : (listing.spot none (some token)).toBool = true := by decide +kernel
      rw [hspot] at haccepted
      cases haccepted
  | ok spot =>
      rw [hspot] at hwhole
      obtain ⟨-, page, hpage, -, hinfix, -⟩ := Listing.page_is_window compile_order rfl (by decide)
        hrows hencode hspot (of_decide_eq_true hwhole) fetch
      rw [hpage] at hdata
      exact ⟨page, hpage, Option.some.inj hdata, hinfix⟩

end Event

end RecordQuery
