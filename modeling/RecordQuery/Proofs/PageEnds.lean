import RecordQuery.Proofs.Neighbors

/-!
# Ends of pages

A page has a token at an end only if the list goes on there, so the rows around the end are known
from the page. They tell which page leads back to it: the window of the rows up to its end, or of
the rows from its beginning.
-/

namespace RecordQuery

namespace Listing

variable {α : Type} [Queryable α]

section Parts

variable {l : Listing} {rows : List α} {spot : Spot}

theorem page_parts (hl : l.Sound) (hrows : l.Regular rows) {before after : Option String}
    (hspot : l.spot before after = .ok spot) {base : Fetch} (hne : l.sorted rows ≠ [])
    {page : Page α} (hpage : l.page base before after rows = .ok page) :
    page.data = l.answer spot base rows ∧
      (l.pager spot).previous (l.sorted rows).head? page.data = .ok page.paging.before ∧
      (l.pager spot).next (l.sorted rows).getLast? page.data = .ok page.paging.after := by
  rw [page_eq hl, hspot] at hpage
  dsimp only at hpage
  rw [run_eq_page hl hrows spot base hne] at hpage
  obtain ⟨hprevious, hnext, hdata, -⟩ := ends_eq_ok.mp hpage
  rw [hdata]
  exact ⟨rfl, hprevious, hnext⟩

theorem previous_eq_some (l : Listing) {first : Option α} {window : List α} {token : String}
    (h : (l.pager spot).previous first window = .ok (some token)) :
    ∃ row, window.head? = some row ∧ spot ≠ .start ∧ (l.pager spot).level row first = false ∧
      (spot.backward = true → l.size ≤ window.length) ∧ l.token row = .ok token := by
  cases window with
  | nil => cases spot <;> cases h
  | cons row window =>
      rw [previous_cons] at h
      have hstart : spot ≠ .start := by
        rintro rfl
        cases h
      have h : (if (spot.backward && decide ((row :: window).length < l.size)) ||
          (l.pager spot).level row first then Except.ok none else (l.token row).map some) =
            .ok (some token) := by
        cases spot with
        | start => exact absurd rfl hstart
        | after boundary => exact h
        | before boundary => exact h
      split at h
      · cases h
      next hfull =>
        obtain ⟨t, htoken, ht⟩ := map_eq_ok.mp h
        cases ht
        simp only [Bool.or_eq_true, Bool.and_eq_true, decide_eq_true_eq, not_or, not_and,
          Nat.not_lt, Bool.not_eq_true] at hfull
        exact ⟨row, rfl, hstart, hfull.2, hfull.1, htoken⟩

theorem next_eq_some (l : Listing) {last : Option α} {window : List α} {token : String}
    (h : (l.pager spot).next last window = .ok (some token)) :
    ∃ row, window.getLast? = some row ∧ (l.pager spot).level row last = false ∧
      (spot.backward = false → l.size ≤ window.length) ∧ l.token row = .ok token := by
  rcases List.eq_nil_or_concat' window with rfl | ⟨window, row, rfl⟩
  · cases h
  · rw [next_concat] at h
    split at h
    · cases h
    next hlevel =>
      split at h
      · cases h
      next hfull =>
        obtain ⟨t, htoken, ht⟩ := map_eq_ok.mp h
        cases ht
        simp only [Bool.and_eq_true, decide_eq_true_eq, Bool.not_eq_true', not_and,
          Bool.not_eq_false] at hfull
        refine ⟨row, List.getLast?_concat, by simpa using hlevel, ?_, htoken⟩
        intro hback
        by_contra hshort
        exact Bool.false_ne_true (hback.symm.trans (hfull (by omega)))

end Parts

section Tokens

variable {l : Listing} {rows : List α} {spot : Spot} {before after : Option String} {base : Fetch}
  {page : Page α} {token : String} (hl : l.Sound) (hcodec : l.codec.Invertible)
  (hrows : l.Regular rows) (hnamed : l.Named rows)
  (hspot : l.spot before after = .ok spot) (hpage : l.page base before after rows = .ok page)

include hl hcodec hrows hnamed

theorem mark_eq_of_token {row : α} (hrow : row ∈ l.sorted rows) (htoken : l.token row = .ok token) :
    l.mark row = token := by
  rw [token_eq_mark hl hcodec (markable_of_mem_sorted hrows hnamed hrow)] at htoken
  exact Except.ok.inj htoken

include hspot hpage

omit hcodec hrows hnamed in
theorem sorted_ne_nil (htoken : page.paging.before.isSome ∨ page.paging.after.isSome) :
    l.sorted rows ≠ [] := by
  intro hnil
  rw [page_eq hl, hspot] at hpage
  dsimp only at hpage
  rw [run_of_sorted_eq_nil spot base hnil] at hpage
  cases hpage
  simp [Page.empty, Paging.keyset] at htoken

/-- If the rows of the page are a stretch of the list, the page is the one shown for the stretch. -/
theorem shown_eq_page {rest more : List α} (hsorted : l.sorted rows = rest ++ page.data ++ more)
    (hframes : l.Frames spot rest page.data more) (hne : l.sorted rows ≠ []) :
    l.shown rest page.data more = page := by
  have hanswer := (page_parts hl hrows hspot hne hpage).1
  have hmarkable : ∀ row ∈ page.data, l.Markable row := by
    intro row hrow
    exact markable_of_mem_sorted hrows hnamed (by simp [hsorted, hrow])
  rw [page_eq hl, hspot] at hpage
  dsimp only at hpage
  rw [hanswer] at hsorted hframes hmarkable ⊢
  rw [run_eq_frame hl hrows base hsorted hframes, frame_eq_shown hl hcodec hmarkable] at hpage
  exact Except.ok.inj hpage

/-- The rows around the end of a page that has a token there. -/
theorem exists_next (hafter : page.paging.after = some token) :
    ∃ above last next below, l.sorted rows = above ++ last :: next :: below ∧
      page.data.getLast? = some last ∧ l.mark last = token ∧
      (spot.backward = false → l.size ≤ page.data.length) := by
  have hne := sorted_ne_nil hl hspot hpage (Or.inr (by rw [hafter]; rfl))
  obtain ⟨hanswer, -, hnext⟩ := page_parts hl hrows hspot hne hpage
  rw [hafter] at hnext
  obtain ⟨last, hlast, hlevel, hfull, htoken⟩ := next_eq_some l hnext
  have hmem : last ∈ l.sorted rows := by
    have hdata := List.mem_of_getLast? hlast
    rw [hanswer] at hdata
    exact mem_of_mem_answer hdata
  obtain ⟨above, rest, hsorted⟩ := List.append_of_mem hmem
  rw [level_last hl hrows spot hsorted, List.isEmpty_eq_false_iff] at hlevel
  obtain ⟨next, below, rfl⟩ := List.exists_cons_of_ne_nil hlevel
  exact ⟨above, last, next, below, hsorted, hlast,
    mark_eq_of_token hl hcodec hrows hnamed hmem htoken, hfull⟩

theorem exists_previous (hbefore : page.paging.before = some token) :
    ∃ above previous first below, l.sorted rows = above ++ previous :: first :: below ∧
      page.data.head? = some first ∧ l.mark first = token ∧ spot ≠ .start ∧
      (spot.backward = true → l.size ≤ page.data.length) := by
  have hne := sorted_ne_nil hl hspot hpage (Or.inl (by rw [hbefore]; rfl))
  obtain ⟨hanswer, hprevious, -⟩ := page_parts hl hrows hspot hne hpage
  rw [hbefore] at hprevious
  obtain ⟨first, hfirst, hstart, hlevel, hfull, htoken⟩ := previous_eq_some l hprevious
  have hmem : first ∈ l.sorted rows := by
    have hdata := List.mem_of_mem_head? hfirst
    rw [hanswer] at hdata
    exact mem_of_mem_answer hdata
  obtain ⟨rest, below, hsorted⟩ := List.append_of_mem hmem
  rw [level_first hl hrows spot hsorted, List.isEmpty_eq_false_iff] at hlevel
  obtain ⟨above, previous, rfl⟩ := (List.eq_nil_or_concat' rest).resolve_left hlevel
  exact ⟨above, previous, first, below, by simpa using hsorted, hfirst,
    mark_eq_of_token hl hcodec hrows hnamed hmem htoken, hstart, hfull⟩

end Tokens

/-! ### Windows of boundaries that fit -/

section Windows

variable {l : Listing} {rows above below : List α} {spot : Spot} (hl : l.Sound)
  (hrows : l.Regular rows)

include hl hrows

omit hl hrows in
theorem length_window_le (l : Listing) (spot : Spot) (rows : List α) :
    (l.window spot rows).length ≤ l.size := by
  cases spot with
  | start => exact List.length_take_le ..
  | after boundary => exact List.length_take_le ..
  | before boundary =>
      rw [window, List.rtake, List.length_drop]
      omega

/-- A window with rows below it is made of the last rows up to its end. -/
theorem window_eq_rtake {last next : α}
    (hsorted : l.sorted rows = above ++ last :: next :: below)
    (hlast : (l.window spot rows).getLast? = some last) :
    l.above spot rows = (above ++ [last]).rdrop l.size ∧
      l.window spot rows = (above ++ [last]).rtake l.size := by
  have hle := length_window_le l spot rows
  have hframes := frames_window l spot rows
  have hparts := sorted_eq_above_window_below hl hrows spot
  generalize l.above spot rows = rest at *
  generalize l.window spot rows = window at *
  generalize l.below spot rows = more at *
  obtain ⟨front, rfl⟩ := List.getLast?_eq_some_iff.mp hlast
  obtain ⟨rfl, rfl⟩ := split_unique hl hrows hsorted (hparts.trans (by simp) :
    _ = (rest ++ front) ++ last :: more)
  rw [List.append_assoc, List.rdrop, List.rtake, List.length_append]
  by_cases hshort : (front ++ [last]).length < l.size
  · have hrest : rest = [] := by
      cases hback : spot.backward with
      | true => exact hframes.above hback hshort
      | false => exact absurd (hframes.below hback hshort) (by simp)
    subst hrest
    rw [List.length_nil, Nat.zero_add, Nat.sub_eq_zero_of_le hle]
    exact ⟨rfl, rfl⟩
  · rw [Nat.le_antisymm hle (Nat.not_lt.mp hshort), Nat.add_sub_cancel, List.take_left,
      List.drop_left]
    exact ⟨rfl, rfl⟩

/-- A window with rows above it is made of the first rows from its beginning. -/
theorem window_eq_take {previous first : α}
    (hsorted : l.sorted rows = above ++ previous :: first :: below)
    (hfirst : (l.window spot rows).head? = some first) :
    l.window spot rows = (first :: below).take l.size := by
  have hle := length_window_le l spot rows
  have hframes := frames_window l spot rows
  have hparts := sorted_eq_above_window_below hl hrows spot
  generalize l.above spot rows = rest at *
  generalize l.window spot rows = window at *
  generalize l.below spot rows = more at *
  obtain ⟨back, rfl⟩ := List.head?_eq_some_iff.mp hfirst
  obtain ⟨rfl, rfl⟩ := split_unique hl hrows
    (hsorted.trans (by simp) : _ = (above ++ [previous]) ++ first :: below)
    (hparts.trans (by simp) : _ = rest ++ first :: (back ++ more))
  rw [← List.cons_append]
  by_cases hshort : (first :: back).length < l.size
  · have hmore : more = [] := by
      cases hback : spot.backward with
      | true => exact absurd (hframes.above hback hshort) (by simp)
      | false => exact hframes.below hback hshort
    rw [hmore, List.append_nil, List.take_of_length_le hle]
  · rw [Nat.le_antisymm (Nat.not_lt.mp hshort) hle, List.take_left]

end Windows

section Pages

variable {l : Listing} {rows above below : List α} {spot : Spot} {before after : Option String}
  {base : Fetch} {page : Page α} (hl : l.Sound) (hcodec : l.codec.Invertible)
  (hrows : l.Regular rows) (hnamed : l.Named rows)
  (hspot : l.spot before after = .ok spot) (hpage : l.page base before after rows = .ok page)

include hl hrows hspot hpage

theorem data_eq_window (hne : l.sorted rows ≠ []) (hfits : spot.Fits l.order) :
    page.data = l.window spot rows :=
  (page_parts hl hrows hspot hne hpage).1.trans (answer_eq_window hl hrows hfits base)

include hcodec hnamed

theorem shown_upTo_eq_iff {last next : α} (hsorted : l.sorted rows = above ++ last :: next :: below)
    (hlast : page.data.getLast? = some last)
    (hfull : spot.backward = false → l.size ≤ page.data.length) :
    l.shown ((above ++ [last]).rdrop l.size) ((above ++ [last]).rtake l.size) (next :: below) =
        page ↔
      page.data = (above ++ [last]).rtake l.size := by
  have hne : l.sorted rows ≠ [] := by simp [hsorted]
  constructor
  · intro h
    rw [← h]
    rfl
  · intro hdata
    -- whatever the boundary is, the rows are now known to be a stretch of the list
    have hparts : l.sorted rows = (above ++ [last]).rdrop l.size ++ page.data ++ next :: below := by
      rw [hdata, List.rdrop, List.rtake, List.take_append_drop]
      simpa using hsorted
    rw [← hdata]
    refine shown_eq_page hl hcodec hrows hnamed hspot hpage hparts ?_ hne
    refine ⟨?_, ?_, ?_⟩
    · -- the first page has no rows above it
      rintro rfl
      have hwindow := data_eq_window hl hrows hspot hpage hne trivial
      rw [← (window_eq_rtake hl hrows hsorted (hwindow ▸ hlast)).1]
      exact (frames_window l .start rows).start rfl
    · intro _ hshort
      rw [hdata, List.rtake, List.length_drop] at hshort
      rw [List.rdrop, List.take_eq_nil_iff]
      omega
    · intro hback hshort
      exact absurd (hfull hback) (Nat.not_le.mpr hshort)

theorem shown_from_eq_iff {previous first : α}
    (hsorted : l.sorted rows = above ++ previous :: first :: below) (hstart : spot ≠ .start)
    (hfull : spot.backward = true → l.size ≤ page.data.length) :
    l.shown (above ++ [previous]) ((first :: below).take l.size) ((first :: below).drop l.size) =
        page ↔
      page.data = (first :: below).take l.size := by
  have hne : l.sorted rows ≠ [] := by simp [hsorted]
  constructor
  · intro h
    rw [← h]
    rfl
  · intro hdata
    have hparts : l.sorted rows =
        (above ++ [previous]) ++ page.data ++ (first :: below).drop l.size := by
      rw [hdata, List.append_assoc, List.take_append_drop]
      simpa using hsorted
    rw [← hdata]
    refine shown_eq_page hl hcodec hrows hnamed hspot hpage hparts ?_ hne
    refine ⟨fun h => absurd h hstart, ?_, ?_⟩
    · intro hback hshort
      exact absurd (hfull hback) (Nat.not_le.mpr hshort)
    · intro _ hshort
      rw [hdata, List.length_take] at hshort
      exact List.drop_eq_nil_of_le (by omega)

end Pages

end Listing

end RecordQuery
