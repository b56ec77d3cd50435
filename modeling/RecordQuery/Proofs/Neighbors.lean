import RecordQuery.Proofs.Page
import RecordQuery.Proofs.Token

/-!
# Pages next to a row

The token of a row, wherever it comes from, leads to the rows of the list after it or before it. The
request is refused exactly when the token is too long or a timestamp among the keys of the row is
not read back from its text.
-/

namespace RecordQuery

namespace Listing

variable {α : Type} [Queryable α]

/-- Variants among the keys of the matching rows can be told by their names. -/
def Named (l : Listing) (rows : List α) : Prop :=
  ∀ row ∈ l.matching rows, l.order.Named (Queryable.record row)

/-- A row that a token can be made of. -/
structure Markable (l : Listing) (row : α) : Prop where
  fits : l.order.Fits (Queryable.record row)
  named : l.order.Named (Queryable.record row)

/-- The row is read back from its token. -/
def Readable (l : Listing) (row : α) : Prop :=
  l.order.Readable (Queryable.record row)

/-- The tokens of the matching rows have at most the accepted length. -/
def Short (l : Listing) (rows : List α) : Prop :=
  ∀ row ∈ l.matching rows, ∀ token, l.token row = .ok token → token.utf8ByteSize ≤ Codec.tokenLimit

instance (l : Listing) (rows : List α) : Decidable (l.Short rows) :=
  decidable_of_iff (∀ row ∈ l.matching rows,
    ((l.token row).toOption.all fun token => token.utf8ByteSize ≤ Codec.tokenLimit) = true) <| by
    refine forall₂_congr fun row _ => ?_
    cases l.token row with
    | error error => simp [Except.toOption]
    | ok token => simp [Except.toOption]

theorem markable_of_mem_sorted {l : Listing} {rows : List α} (hrows : l.Regular rows)
    (hnamed : l.Named rows) {row : α} (hrow : row ∈ l.sorted rows) : l.Markable row :=
  ⟨fits_of_mem_sorted hrows hrow, hnamed row (mem_sorted.mp hrow)⟩

/-! ### Tokens of rows -/

/-- The token of a row with a codec that never fails. -/
def mark (l : Listing) (row : α) : String :=
  (l.token row).toOption.getD ""

section Mark

variable {l : Listing} {row : α}

theorem token_eq_mark (hl : l.Sound) (hcodec : l.codec.Invertible) (hrow : l.Markable row) :
    l.token row = .ok (l.mark row) := by
  obtain ⟨token, htoken, -⟩ := Codec.exists_token (hcodec.carries _) hl.wellFormed hrow.fits
  have htoken : l.token row = .ok token := htoken
  rw [mark, htoken]
  rfl

theorem effectiveToken_mark (hl : l.Sound) (hcodec : l.codec.Invertible) (hrow : l.Markable row) :
    KeysetPager.effectiveToken (some (l.mark row)) = some (l.mark row) := by
  have hblank := (Codec.decode_token (hcodec.carries _) hl.wellFormed hrow.fits
    (token_eq_mark hl hcodec hrow)).1
  rw [KeysetPager.effectiveToken, Option.filter_some, hblank]
  rfl

theorem mark_length_le (hl : l.Sound) (hcodec : l.codec.Invertible) {rows : List α}
    (hrows : l.Regular rows) (hnamed : l.Named rows) (hshort : l.Short rows)
    (hmem : row ∈ l.sorted rows) : (l.mark row).utf8ByteSize ≤ Codec.tokenLimit :=
  hshort row (mem_sorted.mp hmem) _
    (token_eq_mark hl hcodec (markable_of_mem_sorted hrows hnamed hmem))

/-- **The token of a row is accepted** exactly when it is not too long and the row is readable. -/
theorem accepted_iff (hl : l.Sound) (hcodec : l.codec.Invertible) (hrow : l.Markable row)
    (hshort : (l.mark row).utf8ByteSize ≤ Codec.tokenLimit) :
    (∃ boundary, l.codec.boundary (l.mark row) l.order = .ok boundary) ↔ l.Readable row := by
  rw [Codec.exists_boundary_iff (hcodec.carries _) hl.wellFormed hrow.fits hrow.named
    (token_eq_mark hl hcodec hrow), and_iff_left hshort]
  rfl

end Mark

/-! ### The list around a row -/

/-- The rows that come after a row. -/
def rowsAfter (l : Listing) (row : α) (rows : List α) : List α :=
  (l.sorted rows).filter fun other => l.compare other row == .gt

def rowsUpTo (l : Listing) (row : α) (rows : List α) : List α :=
  (l.sorted rows).filter fun other => !(l.compare other row == .gt)

def rowsBefore (l : Listing) (row : α) (rows : List α) : List α :=
  (l.sorted rows).filter fun other => l.compare other row == .lt

def rowsFrom (l : Listing) (row : α) (rows : List α) : List α :=
  (l.sorted rows).filter fun other => !(l.compare other row == .lt)

omit [Queryable α] in
theorem filter_append_split {p : α → Bool} (xs ys : List α) (hxs : ∀ x ∈ xs, p x = false)
    (hys : ∀ y ∈ ys, p y = true) :
    (xs ++ ys).filter p = ys ∧ (xs ++ ys).filter (fun z => !p z) = xs := by
  rw [List.filter_append, List.filter_append]
  constructor
  · rw [List.filter_eq_nil_iff.mpr fun x hx => by simp [hxs x hx], List.nil_append,
      List.filter_eq_self.mpr hys]
  · rw [List.filter_eq_self.mpr fun x hx => by simp [hxs x hx],
      List.filter_eq_nil_iff.mpr fun y hy => by simp [hys y hy], List.append_nil]

section Around

variable {l : Listing} {rows above below : List α} {row : α}

theorem ascending_around (hl : l.Sound) (hrows : l.Regular rows)
    (hsorted : l.sorted rows = above ++ row :: below) :
    (∀ other ∈ above, l.compare other row = .lt) ∧ ∀ other ∈ below, l.compare other row = .gt := by
  have hascending := sorted_ascending hl hrows
  rw [hsorted, Ascending, List.pairwise_append] at hascending
  obtain ⟨-, hbelow, habove⟩ := hascending
  refine ⟨fun other h => habove other h row (by simp), fun other h => ?_⟩
  exact Std.OrientedCmp.gt_of_lt (List.rel_of_pairwise_cons hbelow h)

theorem rows_around_last (hl : l.Sound) (hrows : l.Regular rows)
    (hsorted : l.sorted rows = above ++ row :: below) :
    l.rowsAfter row rows = below ∧ l.rowsUpTo row rows = above ++ [row] := by
  obtain ⟨habove, hbelow⟩ := ascending_around hl hrows hsorted
  have hsplit : l.sorted rows = (above ++ [row]) ++ below := by simpa using hsorted
  rw [rowsAfter, rowsUpTo, hsplit]
  refine filter_append_split (above ++ [row]) below ?_ fun other h => by simp [hbelow other h]
  intro other h
  rcases List.mem_append.mp h with h | h
  · simp [habove other h]
  · rw [List.mem_singleton.mp h, compare_self]
    rfl

theorem rows_around_first (hl : l.Sound) (hrows : l.Regular rows)
    (hsorted : l.sorted rows = above ++ row :: below) :
    l.rowsFrom row rows = row :: below ∧ l.rowsBefore row rows = above := by
  obtain ⟨habove, hbelow⟩ := ascending_around hl hrows hsorted
  have hsplit := filter_append_split (p := fun other => !(l.compare other row == .lt)) above
    (row :: below) (fun other h => by simp [habove other h]) ?_
  · simpa only [rowsFrom, rowsBefore, hsorted, Bool.not_not] using hsplit
  · intro other h
    rcases List.mem_cons.mp h with rfl | h
    · simp [compare_self]
    · simp [hbelow other h]

/-- A row stands at one place only. -/
theorem split_unique (hl : l.Sound) (hrows : l.Regular rows) {above' below' : List α}
    (hsorted : l.sorted rows = above ++ row :: below)
    (hsorted' : l.sorted rows = above' ++ row :: below') : above = above' ∧ below = below' := by
  obtain ⟨hbelow, -⟩ := rows_around_last hl hrows hsorted
  obtain ⟨hbelow', -⟩ := rows_around_last hl hrows hsorted'
  obtain ⟨-, habove⟩ := rows_around_first hl hrows hsorted
  obtain ⟨-, habove'⟩ := rows_around_first hl hrows hsorted'
  exact ⟨habove.symm.trans habove', hbelow.symm.trans hbelow'⟩

end Around

/-! ### Pages next to a row -/

/-- The page of a stretch of rows between those above and those below, with a codec that never
fails. -/
def shown (l : Listing) (above rows below : List α) : Page α :=
  ⟨rows, .keyset (above.length + rows.length + below.length) l.size
    (if above.isEmpty then none else rows.head?.map l.mark)
    (if below.isEmpty then none else rows.getLast?.map l.mark)⟩

section Shown

variable {l : Listing} {rows above window below : List α} {row : α}

theorem token?_eq_mark (hl : l.Sound) (hcodec : l.codec.Invertible) (ended : Bool)
    {row : Option α} (hrow : ∀ r ∈ row, l.Markable r) :
    l.token? (if ended then none else row) = .ok (if ended then none else row.map l.mark) := by
  cases ended with
  | true => rfl
  | false =>
      cases row with
      | none => rfl
      | some r =>
          change (l.token r).map some = _
          rw [token_eq_mark hl hcodec (hrow r rfl)]
          rfl

theorem frame_eq_shown (hl : l.Sound) (hcodec : l.codec.Invertible)
    (hwindow : ∀ row ∈ window, l.Markable row) :
    l.frame above window below = .ok (l.shown above window below) := by
  rw [frame_eq_ok]
  refine ⟨?_, ?_, rfl, rfl⟩
  · exact token?_eq_mark hl hcodec _ fun row hrow => hwindow row (List.mem_of_mem_head? hrow)
  · exact token?_eq_mark hl hcodec _ fun row hrow => hwindow row (List.mem_of_getLast? hrow)

theorem reads_of_captures {boundary : List Operand}
    (h : l.order.Captures (Queryable.record row) boundary) (other : α) :
    (Spot.after boundary).reads l.order (Queryable.record other) =
        (l.compare other row == .gt) ∧
      (Spot.before boundary).reads l.order (Queryable.record other) =
        (l.compare other row == .lt) := by
  have horder := tupleOrder_congr_right l.order.directions
    (l.order.tuple (Queryable.record other)) h.2
  rw [Spot.reads, Spot.reads, horder]
  exact ⟨rfl, rfl⟩

variable (hl : l.Sound) (hcodec : l.codec.Invertible) (hrows : l.Regular rows)
  (hnamed : l.Named rows)

include hl hcodec hrows hnamed

theorem page_start (base : Fetch) :
    l.page base none none rows =
      .ok (l.shown [] ((l.sorted rows).take l.size) ((l.sorted rows).drop l.size)) := by
  have hside : l.side .start rows = l.sorted rows := by simp [side, Spot.reads]
  have hother : l.otherSide .start rows = [] := by simp [otherSide, Spot.reads]
  have hspot : l.spot none none = .ok .start := rfl
  rw [page_eq_frame hl hrows hspot trivial, above, window, below, hside, hother]
  refine frame_eq_shown hl hcodec fun row hrow => ?_
  exact markable_of_mem_sorted hrows hnamed (List.mem_of_mem_take hrow)

/-- **The page after a row**, if the token of the row is accepted. -/
theorem page_after (hrow : l.Markable row) (base : Fetch) :
    l.page base none (some (l.mark row)) rows =
      (l.codec.boundary (l.mark row) l.order).map fun _ =>
        l.shown (l.rowsUpTo row rows) ((l.rowsAfter row rows).take l.size)
          ((l.rowsAfter row rows).drop l.size) := by
  have hspot : l.spot none (some (l.mark row)) =
      (l.codec.boundary (l.mark row) l.order).map .after := by
    rw [spot, effectiveToken_mark hl hcodec hrow]
    rfl
  cases hboundary : l.codec.boundary (l.mark row) l.order with
  | error error =>
      rw [page_eq hl, hspot, hboundary]
      rfl
  | ok boundary =>
      -- an accepted token stands for the tuple of its row
      rw [hboundary] at hspot
      obtain ⟨hcaptures, -⟩ := Codec.captures_of_boundary (hcodec.carries _) hl.wellFormed hrow.fits
        hrow.named (token_eq_mark hl hcodec hrow) hboundary
      have hreads := fun other => (reads_of_captures hcaptures other).1
      rw [page_eq_frame hl hrows hspot hcaptures.1, above, window, below, side, otherSide]
      simp only [hreads]
      refine frame_eq_shown hl hcodec fun other hother => ?_
      have hmem := List.mem_of_mem_filter (List.mem_of_mem_take hother)
      exact markable_of_mem_sorted hrows hnamed hmem

/-- **The page before a row**, if the token of the row is accepted. -/
theorem page_before (hrow : l.Markable row) (base : Fetch) :
    l.page base (some (l.mark row)) none rows =
      (l.codec.boundary (l.mark row) l.order).map fun _ =>
        l.shown ((l.rowsBefore row rows).rdrop l.size) ((l.rowsBefore row rows).rtake l.size)
          (l.rowsFrom row rows) := by
  have hspot : l.spot (some (l.mark row)) none =
      (l.codec.boundary (l.mark row) l.order).map .before := by
    rw [spot, effectiveToken_mark hl hcodec hrow]
    rfl
  cases hboundary : l.codec.boundary (l.mark row) l.order with
  | error error =>
      rw [page_eq hl, hspot, hboundary]
      rfl
  | ok boundary =>
      rw [hboundary] at hspot
      obtain ⟨hcaptures, -⟩ := Codec.captures_of_boundary (hcodec.carries _) hl.wellFormed hrow.fits
        hrow.named (token_eq_mark hl hcodec hrow) hboundary
      have hreads := fun other => (reads_of_captures hcaptures other).2
      rw [page_eq_frame hl hrows hspot hcaptures.1, above, window, below, side, otherSide]
      simp only [hreads]
      refine frame_eq_shown hl hcodec fun other hother => ?_
      have hmem := List.mem_of_mem_filter (List.mem_of_mem_drop hother)
      exact markable_of_mem_sorted hrows hnamed hmem

omit hrows hnamed in
theorem map_boundary_eq_ok (hrow : l.Markable row)
    (hshort : (l.mark row).utf8ByteSize ≤ Codec.tokenLimit) {shown page : Page α} :
    ((l.codec.boundary (l.mark row) l.order).map fun _ => shown) = .ok page ↔
      l.Readable row ∧ shown = page := by
  rw [map_eq_ok, exists_and_right, accepted_iff hl hcodec hrow hshort]

/-- The request after a row of the list succeeds exactly when the row is readable. -/
theorem page_after_eq_ok (hshort : l.Short rows) (hmem : row ∈ l.sorted rows) (base : Fetch)
    {page : Page α} :
    l.page base none (some (l.mark row)) rows = .ok page ↔
      l.Readable row ∧ l.shown (l.rowsUpTo row rows) ((l.rowsAfter row rows).take l.size)
        ((l.rowsAfter row rows).drop l.size) = page := by
  have hrow := markable_of_mem_sorted hrows hnamed hmem
  rw [page_after hl hcodec hrows hnamed hrow, map_boundary_eq_ok hl hcodec hrow
    (mark_length_le hl hcodec hrows hnamed hshort hmem)]

theorem page_before_eq_ok (hshort : l.Short rows) (hmem : row ∈ l.sorted rows) (base : Fetch)
    {page : Page α} :
    l.page base (some (l.mark row)) none rows = .ok page ↔
      l.Readable row ∧ l.shown ((l.rowsBefore row rows).rdrop l.size)
        ((l.rowsBefore row rows).rtake l.size) (l.rowsFrom row rows) = page := by
  have hrow := markable_of_mem_sorted hrows hnamed hmem
  rw [page_before hl hcodec hrows hnamed hrow, map_boundary_eq_ok hl hcodec hrow
    (mark_length_le hl hcodec hrows hnamed hshort hmem)]

end Shown

end Listing

/-! ### Events -/

namespace Event

theorem invertible : listing.codec.Invertible := by
  intro layer hlayer
  cases hlayer

theorem named (rows : List Event) : listing.Named rows := by
  intro e _ key hkey variants index hkind
  rcases mem_keys hkey with rfl | rfl
  · cases hkind
  · cases hkind

theorem readable_iff (e : Event) : listing.Readable e ↔ (Timestamp.mk e.time).Readable := by
  constructor
  · intro h
    exact h ⟨⟨[], timeField⟩, .asc⟩ (by simp [listing]) ⟨e.time⟩ rfl
  · intro h key hkey t ht
    rcases mem_keys hkey with rfl | rfl
    · cases ht
      exact h
    · cases ht

theorem readable_of_mem {rows : List Event} (h : ∀ e ∈ rows, (Timestamp.mk e.time).Readable) :
    ∀ e ∈ listing.matching rows, listing.Readable e := by
  intro e he
  rw [matching_eq] at he
  exact (readable_iff e).mpr (h e he)

end Event

end RecordQuery
