import RecordQuery.Proofs.Listing

/-!
# Windows

A request reads the whole ascending list or the part of it on one side of a boundary, and its page
is a window at the edge of that part. The page carries the token of its first row as long as there
are rows above the window, and the token of its last row as long as there are rows below.
-/

namespace RecordQuery

variable {α : Type}

theorem eq_filter_not_append_filter {p : α → Bool} {xs : List α}
    (h : xs.Pairwise fun a b => p a → p b) :
    xs = xs.filter (fun x => !p x) ++ xs.filter p := by
  induction xs with
  | nil => rfl
  | cons x xs ih =>
      obtain ⟨hx, hxs⟩ := List.pairwise_cons.mp h
      by_cases hp : p x
      · have hall : ∀ y ∈ x :: xs, p y := by
          intro y hy
          rcases List.mem_cons.mp hy with rfl | hy
          · exact hp
          · exact hx y hy hp
        rw [List.filter_eq_self.mpr hall, List.filter_eq_nil_iff.mpr, List.nil_append]
        intro y hy
        simp [hall y hy]
      · rw [List.filter_cons_of_neg hp, List.filter_cons_of_pos (by simpa using hp),
          List.cons_append, ← ih hxs]

/-- Which part of the ascending list a request reads: all of it, or the rows on one side of a
boundary. -/
inductive Spot where
  | start
  | after (boundary : List Operand)
  | before (boundary : List Operand)

namespace Spot

def boundary : Spot → List Operand
  | .start => []
  | .after boundary => boundary
  | .before boundary => boundary

/-- The boundary has no binary fraction. -/
def Whole (spot : Spot) : Prop :=
  ∀ operand ∈ spot.boundary, ∀ x, operand ≠ .number (.real x)

instance (operand : Operand) : Decidable (∀ x, operand ≠ .number (.real x)) :=
  match operand with
  | .number (.real x) => .isFalse fun h => h x rfl
  | .number (.signed _) | .number (.unsigned _) | .text _ | .timestamp _ | .uuid _
  | .enumeration _ | .bool _ | .null | .set _ | .pattern _ => .isTrue fun _ h => by cases h

instance (spot : Spot) : Decidable spot.Whole :=
  inferInstanceAs (Decidable (∀ operand ∈ spot.boundary, ∀ x, operand ≠ .number (.real x)))

def Fits (order : SortOrder) : Spot → Prop
  | .start => True
  | .after boundary => order.FitsBoundary boundary
  | .before boundary => order.FitsBoundary boundary

def backward : Spot → Bool
  | .before _ => true
  | _ => false

/-- The tuple of the record is on the side that is read. -/
def reads (order : SortOrder) (spot : Spot) (r : Record) : Bool :=
  match spot with
  | .start => true
  | .after boundary =>
    tupleOrder order.directions (order.tuple r) (boundary.map Operand.toValue) == .gt
  | .before boundary =>
    tupleOrder order.directions (order.tuple r) (boundary.map Operand.toValue) == .lt

def position (l : Listing) : Spot → Position
  | .start => .start
  | .after boundary => .after (l.filter.and (l.order.keyset boundary))
  | .before boundary => .before (l.filter.and (l.order.reversed.keyset boundary))

end Spot

namespace Listing

variable [Queryable α]

/-- The part that the tokens of a request stand for. -/
def spot (l : Listing) (before after : Option String) : Except QueryError Spot :=
  match KeysetPager.effectiveToken before, KeysetPager.effectiveToken after with
  | some _, some _ => .error .conflictingCursors
  | none, some token => (l.codec.boundary token l.order).map .after
  | some token, none => (l.codec.boundary token l.order).map .before
  | none, none => .ok .start

def pager (l : Listing) (spot : Spot) : KeysetPager :=
  ⟨l.filter, l.order, l.size, spot.position l, l.codec⟩

/-- The rows of the part, in order. -/
def side (l : Listing) (spot : Spot) (rows : List α) : List α :=
  (l.sorted rows).filter fun row => spot.reads l.order (Queryable.record row)

def otherSide (l : Listing) (spot : Spot) (rows : List α) : List α :=
  (l.sorted rows).filter fun row => !spot.reads l.order (Queryable.record row)

/-- The first rows of the part, the last ones for a request that goes backward. -/
def window (l : Listing) (spot : Spot) (rows : List α) : List α :=
  match spot with
  | .start => (l.side spot rows).take l.size
  | .after _ => (l.side spot rows).take l.size
  | .before _ => (l.side spot rows).rtake l.size

/-- The rows above the window. -/
def above (l : Listing) (spot : Spot) (rows : List α) : List α :=
  match spot with
  | .start => l.otherSide spot rows
  | .after _ => l.otherSide spot rows
  | .before _ => (l.side spot rows).rdrop l.size

def below (l : Listing) (spot : Spot) (rows : List α) : List α :=
  match spot with
  | .start => (l.side spot rows).drop l.size
  | .after _ => (l.side spot rows).drop l.size
  | .before _ => l.otherSide spot rows

/-- The rows that the pager fetches. -/
def answer (l : Listing) (spot : Spot) (base : Fetch) (rows : List α) : List α :=
  Id.run ((l.pager spot).rows (Source.ofList rows) base)

/-- The token of a row that there may be. -/
def token? (l : Listing) : Option α → Except QueryError (Option String)
  | some row => (l.token row).map some
  | none => .ok none

/-- The page of a stretch of rows between those above and those below. -/
def frame (l : Listing) (above rows below : List α) : Except QueryError (Page α) := do
  let before ← l.token? (if above.isEmpty then none else rows.head?)
  let after ← l.token? (if below.isEmpty then none else rows.getLast?)
  .ok ⟨rows, .keyset (above.length + rows.length + below.length) l.size before after⟩

/-! ### Requests -/

theorem create_eq {l : Listing} (hl : l.Sound) (before after : Option String) :
    KeysetPager.create l.filter l.order l.size before after l.codec =
      (l.spot before after).map l.pager := by
  have hsize : l.size ≠ 0 := Nat.ne_of_gt hl.size
  have htie : l.order.tieBreaker.isNone = false := by
    simpa [Option.isNone_iff_eq_none, Option.isSome_iff_ne_none] using hl.tie
  rw [KeysetPager.create, if_neg hsize, htie, if_neg Bool.false_ne_true,
    KeysetPager.readPosition, spot]
  cases KeysetPager.effectiveToken before with
  | none =>
      cases KeysetPager.effectiveToken after with
      | none => rfl
      | some token =>
          dsimp only
          cases l.codec.boundary token l.order <;> rfl
  | some token =>
      cases KeysetPager.effectiveToken after with
      | none =>
          dsimp only
          cases l.codec.boundary token l.order <;> rfl
      | some _ => rfl

theorem page_eq {l : Listing} (hl : l.Sound) (base : Fetch) (before after : Option String)
    (rows : List α) :
    l.page base before after rows = match l.spot before after with
      | .error error => .error error
      | .ok spot => Id.run ((l.pager spot).run (Source.ofList rows) base) := by
  rw [page, create_eq hl]
  cases l.spot before after <;> rfl

/-! ### What is fetched -/

theorem count_eq (l : Listing) (rows : List α) :
    Id.run ((Source.ofList rows).count l.filter) = (l.sorted rows).length :=
  (l.sorted_perm rows).length_eq.symm

theorem edge_first (l : Listing) (spot : Spot) (rows : List α) (base : Fetch) :
    Id.run ((l.pager spot).edge (Source.ofList rows) base l.order) = (l.sorted rows).head? := by
  change ((Source.arrange (some l.order) (l.matching rows)).take 1).head? = _
  rw [List.head?_take, if_neg (by simp), sorted]

theorem edge_last {l : Listing} (hl : l.Sound) {rows : List α} (hrows : l.Regular rows)
    (spot : Spot) (base : Fetch) :
    Id.run ((l.pager spot).edge (Source.ofList rows) base l.order.reversed) =
      (l.sorted rows).getLast? := by
  change ((Source.arrange (some l.order.reversed) (l.matching rows)).take 1).head? = _
  rw [List.head?_take, if_neg (by simp), arrange_reversed_eq_reverse hl hrows, List.head?_reverse]

theorem accepts_eq_reads {l : Listing} (hl : l.Sound) {rows : List α} (hrows : l.Regular rows)
    {boundary : List Operand} (hboundary : l.order.FitsBoundary boundary) {row : α}
    (hrow : row ∈ l.sorted rows) :
    (l.order.keyset boundary).accepts (Queryable.record row) =
        (Spot.after boundary).reads l.order (Queryable.record row) ∧
      (l.order.reversed.keyset boundary).accepts (Queryable.record row) =
        (Spot.before boundary).reads l.order (Queryable.record row) := by
  have hfits := fits_of_mem_sorted hrows hrow
  rw [SortOrder.accepts_keyset hl.wellFormed hfits hboundary,
    SortOrder.accepts_keyset_reversed hl.wellFormed hfits hboundary,
    SortOrder.standing_eq_tupleOrder hfits hboundary]
  exact ⟨rfl, rfl⟩

theorem answer_eq_window {l : Listing} (hl : l.Sound) {rows : List α} (hrows : l.Regular rows)
    {spot : Spot} (hspot : spot.Fits l.order) (base : Fetch) :
    l.answer spot base rows = l.window spot rows := by
  cases spot with
  | start =>
      change (l.sorted rows).take l.size = ((l.sorted rows).filter fun _ => true).take l.size
      rw [List.filter_true]
  | after boundary =>
      change (Source.arrange (some l.order)
        (Source.select (l.filter.and (l.order.keyset boundary)) rows)).take l.size = _
      rw [arrange_select_and hl hrows, window, side,
        List.filter_congr fun row hrow => (accepts_eq_reads hl hrows hspot hrow).1]
  | before boundary =>
      -- the rows nearest to the boundary come first in the opposite order
      change ((Source.arrange (some l.order.reversed)
        (Source.select (l.filter.and (l.order.reversed.keyset boundary)) rows)).take
          l.size).reverse = _
      rw [arrange_reversed_select_and hl hrows, window, side, List.rtake_eq_reverse_take_reverse,
        List.filter_congr fun row hrow => (accepts_eq_reads hl hrows hspot hrow).2]

theorem mem_of_mem_select_and {l : Listing} {f : Filter} {rows : List α} {row : α}
    (h : row ∈ Source.select (l.filter.and f) rows) : row ∈ l.matching rows := by
  rw [select_and] at h
  exact List.mem_of_mem_filter h

/-- Whatever the boundary is, the fetched rows are rows of the list. -/
theorem mem_of_mem_answer {l : Listing} {spot : Spot} {base : Fetch} {rows : List α} {row : α}
    (h : row ∈ l.answer spot base rows) : row ∈ l.sorted rows := by
  rw [mem_sorted]
  cases spot with
  | start => exact mem_sorted.mp (List.mem_of_mem_take h)
  | after boundary =>
      exact mem_of_mem_select_and ((stableSort_perm _ _).mem_iff.mp (List.mem_of_mem_take h))
  | before boundary =>
      have hmem := List.mem_of_mem_take (List.mem_reverse.mp h)
      exact mem_of_mem_select_and ((stableSort_perm _ _).mem_iff.mp hmem)

/-! ### The ends of the list -/

theorem level_some {l : Listing} (spot : Spot) {a b : α} (ha : l.order.Fits (Queryable.record a))
    (hb : l.order.Fits (Queryable.record b)) :
    (l.pager spot).level a (some b) = (l.compare a b == .eq) := by
  rw [← compare_eq ha hb]
  rfl

section Ends

variable {l : Listing} {rows : List α} {above below : List α} {row : α}

theorem level_first (hl : l.Sound) (hrows : l.Regular rows) (spot : Spot)
    (hsorted : l.sorted rows = above ++ row :: below) :
    (l.pager spot).level row (l.sorted rows).head? = above.isEmpty := by
  have hmem : row ∈ l.sorted rows := by simp [hsorted]
  have hrow := fits_of_mem_sorted hrows hmem
  cases above with
  | nil =>
      rw [hsorted, List.nil_append, List.head?_cons, level_some spot hrow hrow, compare_self]
      rfl
  | cons first above =>
      have hfirstMem : first ∈ l.sorted rows := by simp [hsorted]
      have hfirst := fits_of_mem_sorted hrows hfirstMem
      have hascending := sorted_ascending hl hrows
      rw [hsorted, Ascending, List.cons_append, List.pairwise_cons] at hascending
      have hlt := hascending.1 row (by simp)
      rw [hsorted, List.cons_append, List.head?_cons, level_some spot hrow hfirst,
        Std.OrientedCmp.gt_of_lt hlt]
      rfl

theorem level_last (hl : l.Sound) (hrows : l.Regular rows) (spot : Spot)
    (hsorted : l.sorted rows = above ++ row :: below) :
    (l.pager spot).level row (l.sorted rows).getLast? = below.isEmpty := by
  have hmem : row ∈ l.sorted rows := by simp [hsorted]
  have hrow := fits_of_mem_sorted hrows hmem
  rcases List.eq_nil_or_concat' below with rfl | ⟨below, last, rfl⟩
  · rw [hsorted, List.getLast?_append_cons, List.getLast?_singleton, level_some spot hrow hrow,
      compare_self]
    rfl
  · have hlastMem : last ∈ l.sorted rows := by simp [hsorted]
    have hlast := fits_of_mem_sorted hrows hlastMem
    have hascending := sorted_ascending hl hrows
    rw [hsorted, Ascending, List.pairwise_append] at hascending
    have hlt : l.compare row last = .lt := List.rel_of_pairwise_cons hascending.2.1 (by simp)
    rw [hsorted, List.getLast?_append_cons, List.getLast?_cons, List.getLast?_concat,
      Option.getD_some, level_some spot hrow hlast, hlt]
    simp

end Ends

/-! ### Frames -/

/-- A stretch of the list that a request may end at: the ends of the list where the window is
short. -/
structure Frames (l : Listing) (spot : Spot) (above rows below : List α) : Prop where
  start : spot = .start → above = []
  above : spot.backward = true → rows.length < l.size → above = []
  below : spot.backward = false → rows.length < l.size → below = []

section Page

variable {l : Listing} {rows : List α} {spot : Spot} {above window below : List α}

theorem previous_cons (l : Listing) (spot : Spot) (first : Option α) (row : α) (window : List α) :
    (l.pager spot).previous first (row :: window) =
      match spot with
      | .start => .ok none
      | _ =>
        if (spot.backward && decide ((row :: window).length < l.size)) ||
            (l.pager spot).level row first then .ok none
        else (l.token row).map some := by
  cases spot <;> rfl

theorem next_concat (l : Listing) (spot : Spot) (last : Option α) (window : List α) (row : α) :
    (l.pager spot).next last (window ++ [row]) =
      if (l.pager spot).level row last then .ok none
      else if decide ((window ++ [row]).length < l.size) && !spot.backward then .ok none
      else (l.token row).map some := by
  rw [KeysetPager.next, List.getLast?_concat]
  cases spot <;> rfl

theorem previous_eq (hl : l.Sound) (hrows : l.Regular rows)
    (hsorted : l.sorted rows = above ++ window ++ below)
    (hframes : l.Frames spot above window below) :
    (l.pager spot).previous (l.sorted rows).head? window =
      l.token? (if above.isEmpty then none else window.head?) := by
  cases window with
  | nil => cases spot <;> cases above <;> rfl
  | cons row window =>
      have hlevel : (l.pager spot).level row (l.sorted rows).head? = above.isEmpty :=
        level_first hl hrows spot (by simpa using hsorted)
      rw [previous_cons, hlevel]
      cases spot with
      | start =>
          rw [hframes.start rfl]
          rfl
      | after boundary => cases above <;> rfl
      | before boundary =>
          -- a short window going backward begins the list, so both tests agree
          by_cases hshort : (row :: window).length < l.size
          · rw [hframes.above rfl hshort]
            simp [token?]
          · rw [decide_eq_false hshort, Bool.and_false, Bool.false_or]
            cases above <;> rfl

theorem next_eq (hl : l.Sound) (hrows : l.Regular rows)
    (hsorted : l.sorted rows = above ++ window ++ below)
    (hframes : l.Frames spot above window below) :
    (l.pager spot).next (l.sorted rows).getLast? window =
      l.token? (if below.isEmpty then none else window.getLast?) := by
  rcases List.eq_nil_or_concat' window with rfl | ⟨window, row, rfl⟩
  · cases below <;> rfl
  · have hlevel : (l.pager spot).level row (l.sorted rows).getLast? = below.isEmpty := by
      refine level_last hl hrows spot (hsorted.trans ?_ : _ = (above ++ window) ++ row :: below)
      simp
    rw [next_concat, hlevel, List.getLast?_concat]
    cases below with
    | nil => rfl
    | cons last below =>
        have hfull : (decide ((window ++ [row]).length < l.size) && !spot.backward) = false := by
          cases hback : spot.backward with
          | true => simp
          | false =>
              by_cases hshort : (window ++ [row]).length < l.size
              · exact absurd (hframes.below hback hshort) (by simp)
              · rw [decide_eq_false hshort, Bool.false_and]
        rw [hfull]
        rfl

theorem pager_page_eq_frame (hl : l.Sound) (hrows : l.Regular rows)
    (hsorted : l.sorted rows = above ++ window ++ below)
    (hframes : l.Frames spot above window below) :
    (l.pager spot).page (l.sorted rows).length (l.sorted rows).head? (l.sorted rows).getLast?
      window = l.frame above window below := by
  have hlength : (l.sorted rows).length = above.length + window.length + below.length := by
    rw [hsorted, List.length_append, List.length_append]
  rw [KeysetPager.page, previous_eq hl hrows hsorted hframes, next_eq hl hrows hsorted hframes,
    hlength]
  rfl

end Page

/-! ### The window of a request -/

section Spots

variable {l : Listing} {rows : List α} {spot : Spot}

/-- The rows on the side of a forward request are the last ones of the list. -/
theorem sorted_eq_append_side (hl : l.Sound) (hrows : l.Regular rows)
    (hspot : spot.backward = false) :
    l.sorted rows = l.otherSide spot rows ++ l.side spot rows := by
  refine eq_filter_not_append_filter ((sorted_ascending hl hrows).imp ?_)
  intro a b hab ha
  cases spot with
  | start => rfl
  | after boundary =>
      have hgt : tupleOrder l.order.directions (boundary.map Operand.toValue)
          (l.order.tuple (Queryable.record a)) = .lt :=
        Std.OrientedCmp.lt_of_gt (by simpa [Spot.reads] using ha)
      have hlt := Std.TransCmp.lt_trans hgt hab
      simpa [Spot.reads] using Std.OrientedCmp.gt_of_lt hlt
  | before boundary => cases hspot

theorem sorted_eq_side_append (hl : l.Sound) (hrows : l.Regular rows)
    (hspot : spot.backward = true) :
    l.sorted rows = l.side spot rows ++ l.otherSide spot rows := by
  cases spot with
  | start => cases hspot
  | after boundary => cases hspot
  | before boundary =>
      have hdown : (l.sorted rows).Pairwise fun a b =>
          !(Spot.before boundary).reads l.order (Queryable.record a) →
            !(Spot.before boundary).reads l.order (Queryable.record b) := by
        refine (sorted_ascending hl hrows).imp ?_
        intro a b hab ha
        rw [Bool.not_eq_true', ← Bool.not_eq_true] at ha ⊢
        intro hb
        apply ha
        have hlt : tupleOrder l.order.directions (l.order.tuple (Queryable.record a))
            (l.order.tuple (Queryable.record b)) = .lt := hab
        have hbelow : tupleOrder l.order.directions (l.order.tuple (Queryable.record b))
            (boundary.map Operand.toValue) = .lt := by simpa [Spot.reads] using hb
        simpa [Spot.reads] using Std.TransCmp.lt_trans hlt hbelow
      have hsplit := eq_filter_not_append_filter hdown
      simpa only [Bool.not_not, side, otherSide] using hsplit

/-- **The window of a request is a stretch of the list.** -/
theorem sorted_eq_above_window_below (hl : l.Sound) (hrows : l.Regular rows) (spot : Spot) :
    l.sorted rows = l.above spot rows ++ l.window spot rows ++ l.below spot rows := by
  cases spot with
  | start =>
      rw [above, window, below, List.append_assoc, List.take_append_drop]
      exact sorted_eq_append_side hl hrows rfl
  | after boundary =>
      rw [above, window, below, List.append_assoc, List.take_append_drop]
      exact sorted_eq_append_side hl hrows rfl
  | before boundary =>
      rw [above, window, below, List.rdrop, List.rtake, List.take_append_drop]
      exact sorted_eq_side_append hl hrows rfl

/-- A window is short only at the ends of the list. -/
theorem frames_window (l : Listing) (spot : Spot) (rows : List α) :
    l.Frames spot (l.above spot rows) (l.window spot rows) (l.below spot rows) := by
  cases spot with
  | start =>
      refine ⟨fun _ => by simp [above, otherSide, Spot.reads], fun h => (by cases h), ?_⟩
      intro _ hshort
      rw [window, List.length_take] at hshort
      exact List.drop_eq_nil_of_le (by omega)
  | after boundary =>
      refine ⟨fun h => (by cases h), fun h => (by cases h), ?_⟩
      intro _ hshort
      rw [window, List.length_take] at hshort
      exact List.drop_eq_nil_of_le (by omega)
  | before boundary =>
      refine ⟨fun h => (by cases h), ?_, fun h => (by cases h)⟩
      intro _ hshort
      rw [window, List.rtake, List.length_drop] at hshort
      rw [above, List.rdrop, List.take_eq_nil_iff]
      omega

theorem run_eq_ends (l : Listing) (spot : Spot) (base : Fetch) (hne : l.sorted rows ≠ []) :
    Id.run ((l.pager spot).run (Source.ofList rows) base) =
      (l.pager spot).page (l.sorted rows).length
        (Id.run ((l.pager spot).edge (Source.ofList rows) base l.order))
        (Id.run ((l.pager spot).edge (Source.ofList rows) base l.order.reversed))
        (l.answer spot base rows) := by
  have hcount := l.count_eq rows
  have hlength : (l.sorted rows).length ≠ 0 := by simpa using hne
  rw [answer, ← hcount]
  change (if Id.run ((Source.ofList rows).count l.filter) = 0 then _ else _) = _
  rw [if_neg (by rw [hcount]; exact hlength)]
  rfl

/-- **What a request returns** when something matches: the page of the fetched rows. -/
theorem run_eq_page (hl : l.Sound) (hrows : l.Regular rows) (spot : Spot) (base : Fetch)
    (hne : l.sorted rows ≠ []) :
    Id.run ((l.pager spot).run (Source.ofList rows) base) =
      (l.pager spot).page (l.sorted rows).length (l.sorted rows).head? (l.sorted rows).getLast?
        (l.answer spot base rows) := by
  rw [run_eq_ends l spot base hne, edge_first, edge_last hl hrows]

theorem run_of_sorted_eq_nil (spot : Spot) (base : Fetch) (hnil : l.sorted rows = []) :
    Id.run ((l.pager spot).run (Source.ofList rows) base) =
      .ok (.empty (.keyset 0 l.size none none)) := by
  have hcount := l.count_eq rows
  change (if Id.run ((Source.ofList rows).count l.filter) = 0 then _ else _) = _
  rw [hcount, hnil, List.length_nil, if_pos rfl]
  rfl

/-- **What a request returns** when its rows are a stretch of the list: the frame of the stretch. -/
theorem run_eq_frame (hl : l.Sound) (hrows : l.Regular rows) (base : Fetch) {rest more : List α}
    (hsorted : l.sorted rows = rest ++ l.answer spot base rows ++ more)
    (hframes : l.Frames spot rest (l.answer spot base rows) more) :
    Id.run ((l.pager spot).run (Source.ofList rows) base) =
      l.frame rest (l.answer spot base rows) more := by
  by_cases hnil : l.sorted rows = []
  · have hparts := hnil
    rw [hsorted, List.append_eq_nil_iff, List.append_eq_nil_iff] at hparts
    rw [run_of_sorted_eq_nil spot base hnil, hparts.1.1, hparts.1.2, hparts.2]
    rfl
  · rw [run_eq_page hl hrows spot base hnil, pager_page_eq_frame hl hrows hsorted hframes]

end Spots

end Listing

end RecordQuery
