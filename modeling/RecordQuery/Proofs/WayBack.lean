import RecordQuery.Proofs.PageEnds

/-!
# Ways back

A page after a boundary tells of a previous page if its first row is not the first of the list, and
a page before a boundary tells of a next one if its last row is not the last. A page without rows
has no end to compare, so it tells of neither, wherever its boundary is.
-/

namespace RecordQuery

namespace Listing

variable {α : Type} [Queryable α] {l : Listing} {rows : List α} {spot : Spot}

/-! ### Answers -/

theorem exists_previousToken {window : List α}
    (hencode : ∀ row ∈ window, ∃ token, l.token row = .ok token) (first : Option α) :
    ∃ token, (l.pager spot).previous first window = .ok token := by
  cases window with
  | nil => cases spot <;> exact ⟨none, rfl⟩
  | cons row window =>
      obtain ⟨token, htoken⟩ := hencode row (by simp)
      rw [previous_cons, htoken]
      cases spot with
      | start => exact ⟨none, rfl⟩
      | after boundary | before boundary =>
          dsimp only
          split
          · exact ⟨none, rfl⟩
          · exact ⟨some token, rfl⟩

theorem exists_nextToken {window : List α}
    (hencode : ∀ row ∈ window, ∃ token, l.token row = .ok token) (last : Option α) :
    ∃ token, (l.pager spot).next last window = .ok token := by
  rcases List.eq_nil_or_concat' window with rfl | ⟨window, row, rfl⟩
  · exact ⟨none, rfl⟩
  · obtain ⟨token, htoken⟩ := hencode row (by simp)
    rw [next_concat, htoken]
    split
    · exact ⟨none, rfl⟩
    · split
      · exact ⟨none, rfl⟩
      · exact ⟨some token, rfl⟩

/-- A request is answered, whatever its boundary is, as long as the rows have tokens. -/
theorem exists_page (hl : l.Sound) (hrows : l.Regular rows)
    (hencode : ∀ row ∈ l.matching rows, ∃ token, l.token row = .ok token)
    {before after : Option String} (hspot : l.spot before after = .ok spot) (base : Fetch) :
    ∃ page, l.page base before after rows = .ok page := by
  rw [page_eq hl, hspot]
  dsimp only
  by_cases hnil : l.sorted rows = []
  · exact ⟨_, run_of_sorted_eq_nil spot base hnil⟩
  · have hanswer : ∀ row ∈ l.answer spot base rows, ∃ token, l.token row = .ok token :=
      fun row hrow => hencode row (mem_sorted.mp (mem_of_mem_answer hrow))
    obtain ⟨previous, hprevious⟩ := exists_previousToken hanswer (l.sorted rows).head?
    obtain ⟨next, hnext⟩ := exists_nextToken hanswer (l.sorted rows).getLast?
    rw [run_eq_page hl hrows spot base hnil]
    exact ⟨⟨_, .keyset _ l.size previous next⟩, ends_eq_ok.mpr ⟨hprevious, hnext, rfl, rfl⟩⟩

section Flags

variable {before after : Option String} {base : Fetch} {page : Page α} {boundary : List Operand}

theorem page_of_sorted_eq_nil (hl : l.Sound) (hspot : l.spot before after = .ok spot)
    (hpage : l.page base before after rows = .ok page) (hnil : l.sorted rows = []) :
    page = .empty (.keyset 0 l.size none none) := by
  rw [page_eq hl, hspot] at hpage
  dsimp only at hpage
  rw [run_of_sorted_eq_nil spot base hnil] at hpage
  exact (Except.ok.inj hpage).symm

/-- The flags tell whether there are tokens. -/
theorem flags_eq (hl : l.Sound) (hrows : l.Regular rows) (hspot : l.spot before after = .ok spot)
    (hpage : l.page base before after rows = .ok page) :
    page.paging.hasPreviousPage = page.paging.before.isSome ∧
      page.paging.hasNextPage = page.paging.after.isSome := by
  by_cases hnil : l.sorted rows = []
  · rw [page_of_sorted_eq_nil hl hspot hpage hnil]
    exact ⟨rfl, rfl⟩
  · rw [page_eq hl, hspot] at hpage
    dsimp only at hpage
    rw [run_eq_page hl hrows spot base hnil] at hpage
    obtain ⟨-, -, -, hpaging⟩ := ends_eq_ok.mp hpage
    rw [hpaging]
    exact ⟨rfl, rfl⟩

theorem hasPreviousPage_iff (hl : l.Sound) (hrows : l.Regular rows)
    (hspot : l.spot before after = .ok (.after boundary))
    (hpage : l.page base before after rows = .ok page) :
    page.paging.hasPreviousPage ↔ ∃ first ∈ page.data.head?, ∃ other ∈ l.matching rows,
      l.order.compare (Queryable.record other) (Queryable.record first) = .lt := by
  rw [(flags_eq hl hrows hspot hpage).1]
  by_cases hnil : l.sorted rows = []
  · rw [page_of_sorted_eq_nil hl hspot hpage hnil]
    simp [Page.empty, Paging.keyset]
  · obtain ⟨hanswer, hprevious, -⟩ := page_parts hl hrows hspot hnil hpage
    cases hdata : page.data with
    | nil =>
        rw [hdata] at hprevious
        rw [← Except.ok.inj hprevious]
        simp
    | cons row window =>
        have hmem : row ∈ l.sorted rows := mem_of_mem_answer (by rw [← hanswer, hdata]; simp)
        obtain ⟨above, below, hsorted⟩ := List.append_of_mem hmem
        have hbeyond := above_ne_nil_iff hl hrows hsorted
        rw [hdata, previous_cons, level_first hl hrows _ hsorted] at hprevious
        simp only [List.head?_cons, Option.mem_some_iff, exists_eq_left', ← hbeyond]
        cases above with
        | nil =>
            rw [← Except.ok.inj hprevious]
            simp
        | cons other above =>
            obtain ⟨token, -, htoken⟩ := map_eq_ok.mp hprevious
            simp [← htoken]

theorem hasNextPage_iff (hl : l.Sound) (hrows : l.Regular rows)
    (hspot : l.spot before after = .ok (.before boundary))
    (hpage : l.page base before after rows = .ok page) :
    page.paging.hasNextPage ↔ ∃ last ∈ page.data.getLast?, ∃ other ∈ l.matching rows,
      l.order.compare (Queryable.record last) (Queryable.record other) = .lt := by
  rw [(flags_eq hl hrows hspot hpage).2]
  by_cases hnil : l.sorted rows = []
  · rw [page_of_sorted_eq_nil hl hspot hpage hnil]
    simp [Page.empty, Paging.keyset]
  · obtain ⟨hanswer, -, hnext⟩ := page_parts hl hrows hspot hnil hpage
    rcases List.eq_nil_or_concat' page.data with hdata | ⟨window, row, hdata⟩
    · rw [hdata] at hnext ⊢
      rw [← Except.ok.inj hnext]
      simp
    · have hmem : row ∈ l.sorted rows := mem_of_mem_answer (by rw [← hanswer, hdata]; simp)
      obtain ⟨above, below, hsorted⟩ := List.append_of_mem hmem
      have hbeyond := below_ne_nil_iff hl hrows hsorted
      rw [hdata, next_concat, level_last hl hrows _ hsorted] at hnext
      rw [hdata, List.getLast?_concat]
      simp only [Option.mem_some_iff, exists_eq_left', ← hbeyond]
      cases below with
      | nil =>
          rw [← Except.ok.inj hnext]
          simp
      | cons other below =>
          rw [Spot.backward, Bool.not_true, Bool.and_false] at hnext
          obtain ⟨token, -, htoken⟩ := map_eq_ok.mp hnext
          simp [← htoken]

/-! ### Boundaries that fit -/

theorem token?_isSome {row : Option α} {token : Option String} (h : l.token? row = .ok token) :
    token.isSome = row.isSome := by
  cases row with
  | none =>
      cases h
      rfl
  | some row =>
      obtain ⟨_, -, rfl⟩ := map_eq_ok.mp h
      rfl

theorem otherSide_ne_nil_iff (l : Listing) (spot : Spot) (rows : List α) :
    l.otherSide spot rows ≠ [] ↔
      ∃ other ∈ l.matching rows, spot.reads l.order (Queryable.record other) = false := by
  simp [otherSide, List.filter_eq_nil_iff, mem_sorted]

theorem hasPreviousPage_iff_of_fits (hl : l.Sound) (hrows : l.Regular rows)
    (hspot : l.spot before after = .ok (.after boundary)) (hfits : l.order.FitsBoundary boundary)
    (hpage : l.page base before after rows = .ok page) :
    page.paging.hasPreviousPage ↔ page.data ≠ [] ∧ ∃ other ∈ l.matching rows,
      l.order.standing (Queryable.record other) boundary ≠ .gt := by
  have hflag := (flags_eq hl hrows hspot hpage).1
  rw [page_eq_frame hl hrows hspot hfits] at hpage
  obtain ⟨hbefore, -, hdata, -⟩ := frame_eq_ok.mp hpage
  have hstanding : (∃ other ∈ l.matching rows,
      l.order.standing (Queryable.record other) boundary ≠ .gt) ↔
        l.otherSide (.after boundary) rows ≠ [] := by
    rw [otherSide_ne_nil_iff]
    refine exists_congr fun other => and_congr_right fun hother => ?_
    rw [SortOrder.standing_eq_tupleOrder (hrows.fits other hother) hfits, Spot.reads,
      beq_eq_false_iff_ne]
  rw [hflag, token?_isSome hbefore, hstanding, ← hdata]
  change (if (l.otherSide (.after boundary) rows).isEmpty then none
    else page.data.head?).isSome ↔ _
  cases l.otherSide (.after boundary) rows <;> cases page.data <;> simp

theorem hasNextPage_iff_of_fits (hl : l.Sound) (hrows : l.Regular rows)
    (hspot : l.spot before after = .ok (.before boundary)) (hfits : l.order.FitsBoundary boundary)
    (hpage : l.page base before after rows = .ok page) :
    page.paging.hasNextPage ↔ page.data ≠ [] ∧ ∃ other ∈ l.matching rows,
      l.order.standing (Queryable.record other) boundary ≠ .lt := by
  have hflag := (flags_eq hl hrows hspot hpage).2
  rw [page_eq_frame hl hrows hspot hfits] at hpage
  obtain ⟨-, hafter, hdata, -⟩ := frame_eq_ok.mp hpage
  have hstanding : (∃ other ∈ l.matching rows,
      l.order.standing (Queryable.record other) boundary ≠ .lt) ↔
        l.otherSide (.before boundary) rows ≠ [] := by
    rw [otherSide_ne_nil_iff]
    refine exists_congr fun other => and_congr_right fun hother => ?_
    rw [SortOrder.standing_eq_tupleOrder (hrows.fits other hother) hfits, Spot.reads,
      beq_eq_false_iff_ne]
  rw [hflag, token?_isSome hafter, hstanding, ← hdata]
  change (if (l.otherSide (.before boundary) rows).isEmpty then none
    else page.data.getLast?).isSome ↔ _
  cases l.otherSide (.before boundary) rows <;> cases page.data <;> simp

end Flags

/-- **When a page tells of the way back.** A request with any accepted token is answered if the rows
have tokens. Its page after (before) a boundary tells of a previous (next) page exactly when it has
a row that does not begin (end) the list. For a boundary without binary fractions that is when it
has a row at all and some matching row stands at or before (after) the boundary. -/
theorem way_back_iff {schema : Schema} {sort : String} {tie : Option String}
    (hcompile : SortOrder.compile schema sort tie = .ok l.order)
    (htie : l.order.tieBreaker.isSome) (hsize : 1 ≤ l.size) (hrows : l.Regular rows)
    {before after : Option String} (hspot : l.spot before after = .ok spot) (base : Fetch) :
    ((∀ row ∈ l.matching rows, ∃ token, l.token row = .ok token) →
      ∃ page, l.page base before after rows = .ok page) ∧
    ∀ page, l.page base before after rows = .ok page →
      (∀ boundary, spot = .after boundary →
        (page.paging.hasPreviousPage ↔ ∃ first ∈ page.data.head?, ∃ other ∈ l.matching rows,
          l.order.compare (Queryable.record other) (Queryable.record first) = .lt) ∧
        (spot.Whole → (page.paging.hasPreviousPage ↔ page.data ≠ [] ∧ ∃ other ∈ l.matching rows,
          l.order.standing (Queryable.record other) boundary ≠ .gt))) ∧
      ∀ boundary, spot = .before boundary →
        (page.paging.hasNextPage ↔ ∃ last ∈ page.data.getLast?, ∃ other ∈ l.matching rows,
          l.order.compare (Queryable.record last) (Queryable.record other) = .lt) ∧
        (spot.Whole → (page.paging.hasNextPage ↔ page.data ≠ [] ∧ ∃ other ∈ l.matching rows,
          l.order.standing (Queryable.record other) boundary ≠ .lt)) := by
  have hl := sound_of_compile hcompile htie hsize
  refine ⟨fun hencode => exists_page hl hrows hencode hspot base, ?_⟩
  intro page hpage
  constructor
  · rintro boundary rfl
    exact ⟨hasPreviousPage_iff hl hrows hspot hpage, fun hwhole =>
      hasPreviousPage_iff_of_fits hl hrows hspot (spot_fits hspot hwhole) hpage⟩
  · rintro boundary rfl
    exact ⟨hasNextPage_iff hl hrows hspot hpage, fun hwhole =>
      hasNextPage_iff_of_fits hl hrows hspot (spot_fits hspot hwhole) hpage⟩

end Listing

namespace Event

theorem exists_after (token : String) (hblank : Text.isBlank token = false)
    {p : List Operand → Bool}
    (h : (listing.codec.boundary token listing.order).toOption.any p = true) :
    ∃ boundary, listing.spot none (some token) = .ok (.after boundary) ∧ p boundary = true := by
  have hspot : listing.spot none (some token) =
      (listing.codec.boundary token listing.order).map .after := by
    rw [Listing.spot, KeysetPager.effectiveToken, KeysetPager.effectiveToken, Option.filter_some,
      hblank]
    rfl
  cases hboundary : listing.codec.boundary token listing.order with
  | error error =>
      rw [hboundary] at h
      cases h
  | ok boundary =>
      rw [hboundary] at h hspot
      exact ⟨boundary, hspot, h⟩

/-- The second page of two events leads back to the first one. -/
theorem hasPreviousPage_after_token :
    ∃ page, listing.page fetch none (some token) pair = .ok page ∧
      page.paging.hasPreviousPage = true := by
  have hrows : listing.Regular pair := regular (by decide)
  have hencode : ∀ e ∈ listing.matching pair, ∃ token, listing.token e = .ok token :=
    exists_token (by decide +kernel)
  have hdata : (listing.page fetch none (some token) pair).toOption.map Page.data =
      some [⟨2, 2000⟩] := by decide +kernel
  obtain ⟨boundary, hspot, hstands⟩ := exists_after token (by decide +kernel)
    (p := fun boundary => decide (Spot.after boundary).Whole &&
      listing.order.standing (record ⟨1, 1000⟩) boundary != .gt) (by decide +kernel)
  obtain ⟨hwhole, hstands⟩ := Bool.and_eq_true_iff.mp hstands
  obtain ⟨hanswered, hflags⟩ :=
    Listing.way_back_iff compile_order rfl (by decide) hrows hspot fetch
  obtain ⟨page, hpage⟩ := hanswered hencode
  rw [hpage] at hdata
  refine ⟨page, hpage, (((hflags page hpage).1 boundary rfl).2 (of_decide_eq_true hwhole)).mpr ?_⟩
  refine ⟨by rw [Option.some.inj hdata]; simp, ⟨1, 1000⟩, ?_, bne_iff_ne.mp hstands⟩
  rw [matching_eq]
  decide

/-- The token of the event with the number 2 at the time 2000. -/
def lastToken : String := "eyJhdCI6IjE5NzAtMDEtMDFUMDA6MDA6MDIuMDAwWiIsImlkIjoyfQ"

/-- After the last event there is no row left, and the page does not lead back to the events. -/
theorem no_way_back_after_last :
    listing.Regular pair ∧ ∃ boundary page,
      listing.spot none (some lastToken) = .ok (.after boundary) ∧
      (Spot.after boundary).Whole ∧
      (∀ e ∈ listing.matching pair, listing.order.standing (record e) boundary ≠ .gt) ∧
      listing.page fetch none (some lastToken) pair = .ok page ∧
      page.paging.hasPreviousPage = false := by
  refine ⟨regular (by decide), ?_⟩
  obtain ⟨boundary, hspot, hstand⟩ := exists_after lastToken (by decide +kernel)
    (p := fun boundary => decide (Spot.after boundary).Whole &&
      pair.all fun e => listing.order.standing (record e) boundary != .gt) (by decide +kernel)
  obtain ⟨hwhole, hstand⟩ := Bool.and_eq_true_iff.mp hstand
  have hflag : (listing.page fetch none (some lastToken) pair).toOption.map
      (fun page => page.paging.hasPreviousPage) = some false := by decide +kernel
  obtain ⟨page, hpage, hflag⟩ := toOption_map_eq_some.mp hflag
  refine ⟨boundary, page, hspot, of_decide_eq_true hwhole, ?_, hpage, hflag⟩
  rw [matching_eq]
  simpa using hstand

end Event

end RecordQuery
