import RecordQuery.Proofs.CompleteWalk
import RecordQuery.Proofs.PageEnds

/-!
# Going back

The page after a page begins with the row below it, and the token of that row leads back to the rows
above. The page that it leads to is the first one again, unless a token on the way is not read back.
-/

namespace RecordQuery

namespace Listing

variable {α : Type} [Queryable α]

/-! ### There and back -/

/-- The token leads to a page whose own token leads back to the page. -/
def ForthAndBack (l : Listing) (base : Fetch) (rows : List α) (token : String) (page : Page α) :
    Prop :=
  ∃ following back, l.page base none (some token) rows = .ok following ∧
    following.paging.before = some back ∧ l.page base (some back) none rows = .ok page

/-- The token leads back to a page whose own token leads on to the page. -/
def BackAndForth (l : Listing) (base : Fetch) (rows : List α) (token : String) (page : Page α) :
    Prop :=
  ∃ preceding onward, l.page base (some token) none rows = .ok preceding ∧
    preceding.paging.after = some onward ∧ l.page base none (some onward) rows = .ok page

section Around

variable {l : Listing} {rows above below : List α} (hl : l.Sound) (hcodec : l.codec.Invertible)
  (hrows : l.Regular rows) (hnamed : l.Named rows) (hshort : l.Short rows)

include hl hcodec hrows hnamed hshort

theorem forthAndBack_iff {last next : α}
    (hsorted : l.sorted rows = above ++ last :: next :: below) (base : Fetch) {page : Page α} :
    l.ForthAndBack base rows (l.mark last) page ↔
      l.Readable last ∧ l.Readable next ∧ l.shown ((above ++ [last]).rdrop l.size)
        ((above ++ [last]).rtake l.size) (next :: below) = page := by
  have hsplit : l.sorted rows = (above ++ [last]) ++ next :: below := by simpa using hsorted
  have hlast : last ∈ l.sorted rows := by simp [hsorted]
  have hnext : next ∈ l.sorted rows := by simp [hsorted]
  obtain ⟨hafter, hupTo⟩ := rows_around_last hl hrows hsorted
  obtain ⟨hfrom, hbefore⟩ := rows_around_first hl hrows hsplit
  have hback : (l.shown (above ++ [last]) ((next :: below).take l.size)
      ((next :: below).drop l.size)).paging.before = some (l.mark next) := by
    have hsize := hl.size
    simp only [shown, Paging.keyset, List.head?_take, if_neg (Nat.ne_of_gt hsize)]
    simp
  constructor
  · rintro ⟨following, back, hfollowing, htoken, hpage⟩
    rw [page_after_eq_ok hl hcodec hrows hnamed hshort hlast, hafter, hupTo] at hfollowing
    obtain ⟨hreadable, rfl⟩ := hfollowing
    rw [hback] at htoken
    obtain rfl := Option.some.inj htoken
    rw [page_before_eq_ok hl hcodec hrows hnamed hshort hnext, hfrom, hbefore] at hpage
    exact ⟨hreadable, hpage⟩
  · rintro ⟨hreadable, hpage⟩
    refine ⟨_, _, (page_after_eq_ok hl hcodec hrows hnamed hshort hlast base).mpr
      ⟨hreadable, rfl⟩, ?_, (page_before_eq_ok hl hcodec hrows hnamed hshort hnext base).mpr ?_⟩
    · rw [hafter, hupTo]
      exact hback
    · rw [hfrom, hbefore]
      exact hpage

theorem backAndForth_iff {previous first : α}
    (hsorted : l.sorted rows = above ++ previous :: first :: below) (base : Fetch)
    {page : Page α} :
    l.BackAndForth base rows (l.mark first) page ↔
      l.Readable first ∧ l.Readable previous ∧ l.shown (above ++ [previous])
        ((first :: below).take l.size) ((first :: below).drop l.size) = page := by
  have hsplit : l.sorted rows = (above ++ [previous]) ++ first :: below := by simpa using hsorted
  have hfirst : first ∈ l.sorted rows := by simp [hsorted]
  have hprevious : previous ∈ l.sorted rows := by simp [hsorted]
  obtain ⟨hfrom, hbefore⟩ := rows_around_first hl hrows hsplit
  obtain ⟨hafter, hupTo⟩ := rows_around_last hl hrows hsorted
  have honward : (l.shown ((above ++ [previous]).rdrop l.size) ((above ++ [previous]).rtake l.size)
      (first :: below)).paging.after = some (l.mark previous) := by
    have hsize := hl.size
    have hlength : (above ++ [previous]).length = above.length + 1 := List.length_append
    have hend : ((above ++ [previous]).rtake l.size).getLast? = some previous := by
      rw [List.rtake, List.getLast?_drop, hlength, if_neg (by omega), List.getLast?_concat]
    simp only [shown, Paging.keyset, hend]
    rfl
  constructor
  · rintro ⟨preceding, onward, hpreceding, htoken, hpage⟩
    rw [page_before_eq_ok hl hcodec hrows hnamed hshort hfirst, hfrom, hbefore] at hpreceding
    obtain ⟨hreadable, rfl⟩ := hpreceding
    rw [honward] at htoken
    obtain rfl := Option.some.inj htoken
    rw [page_after_eq_ok hl hcodec hrows hnamed hshort hprevious, hafter, hupTo] at hpage
    exact ⟨hreadable, hpage⟩
  · rintro ⟨hreadable, hpage⟩
    refine ⟨_, _, (page_before_eq_ok hl hcodec hrows hnamed hshort hfirst base).mpr
      ⟨hreadable, rfl⟩, ?_, (page_after_eq_ok hl hcodec hrows hnamed hshort hprevious base).mpr ?_⟩
    · rw [hfrom, hbefore]
      exact honward
    · rw [hafter, hupTo]
      exact hpage

end Around

/-! ### Walking back -/

section Backward

variable {l : Listing} {rows : List α} (hl : l.Sound) (hcodec : l.codec.Invertible)
  (hrows : l.Regular rows) (hnamed : l.Named rows) (hshort : l.Short rows)

include hl hcodec hrows hnamed hshort

theorem page_before_first_row (base : Fetch) {k : Nat} {row : α}
    (hrow : (l.sorted rows)[(k + 1) * l.size]? = some row) {page : Page α} :
    l.page base (some (l.mark row)) none rows = .ok page ↔
      l.ReadableAt rows ((k + 1) * l.size) ∧ l.pageAt rows (k * l.size) = page := by
  have hsize : l.size ≤ (k + 1) * l.size := Nat.le_mul_of_pos_left _ k.succ_pos
  rw [page_before_eq_pageAt hl hcodec hrows hnamed hshort hrow hsize, readableAt_iff hrow,
    Nat.succ_mul, Nat.add_sub_cancel]

/-- **How a backward walk over unchanged rows goes on** from a page of the list: with the pages
above in reverse, if the rows that begin the pages in between are readable. -/
theorem backwardOn_eq_ok (base : Fetch) (k extra : Nat) (hk : k < l.pageCount rows)
    (pages : List (Page α)) :
    l.backwardOn base (l.pageAt rows (k * l.size)).paging (List.replicate (k + extra) rows) =
        .ok pages ↔
      (∀ i, 0 < i → i ≤ k → l.ReadableAt rows (i * l.size)) ∧
        (l.pagesFrom rows 0 k).reverse = pages := by
  -- on the number of the page, since the walk ends at the first one
  induction k generalizing pages with
  | zero =>
      have hnone : ∀ i, 0 < i → i ≤ 0 → l.ReadableAt rows (i * l.size) :=
        fun i hi hle => by omega
      rw [Nat.zero_mul, backwardOn, walkOn, pageAt_zero_before, Except.ok.injEq]
      exact (and_iff_right hnone).symm
  | succ k ih =>
      have hlt := (lt_pageCount_iff hl k.succ_pos).mp hk
      have hpos : 0 < (k + 1) * l.size := Nat.mul_pos k.succ_pos hl.size
      obtain ⟨row, hrow⟩ : ∃ row, (l.sorted rows)[(k + 1) * l.size]? = some row :=
        ⟨_, List.getElem?_eq_getElem hlt⟩
      rw [Nat.succ_add, List.replicate_succ, backwardOn, walkOn, pageAt_before hl hrow hpos,
        pagesFrom_concat, List.reverse_append, Nat.zero_add]
      dsimp only
      rw [walk_cons_eq_ok]
      constructor
      · rintro ⟨page, preceding, hpage, hpreceding, rfl⟩
        obtain ⟨hreadable, rfl⟩ :=
          (page_before_first_row hl hcodec hrows hnamed hshort base hrow).mp hpage
        obtain ⟨hbetween, rfl⟩ := (ih (by omega) _).mp hpreceding
        refine ⟨?_, rfl⟩
        intro i hi hle
        rcases Nat.eq_or_lt_of_le hle with rfl | hle
        · exact hreadable
        · exact hbetween i hi (by omega)
      · rintro ⟨hbetween, rfl⟩
        have hreadable := hbetween (k + 1) k.succ_pos (Nat.le_refl _)
        have hpage := (page_before_first_row hl hcodec hrows hnamed hshort base hrow).mpr
          ⟨hreadable, rfl⟩
        refine ⟨_, _, hpage, (ih (by omega) _).mpr ⟨?_, rfl⟩, rfl⟩
        intro i hi hle
        exact hbetween i hi (by omega)

/-- From the last page of a forward walk, a backward walk returns the pages before it in reverse
exactly when the rows that begin the pages are readable. -/
theorem retrace_iff (base : Fetch) {limit : Nat} {pages : List (Page α)}
    (hforward : l.forward base none (List.replicate limit rows) = .ok pages) {last : Page α}
    (hlast : pages.getLast? = some last) {more : Nat} (hmore : pages.length ≤ more + 1) :
    l.backwardOn base last.paging (List.replicate more rows) = .ok pages.dropLast.reverse ↔
      ∀ i, 0 < i → i < pages.length → l.ReadableAt rows (i * l.size) := by
  cases limit with
  | zero =>
      cases hforward
      cases hlast
  | succ limit =>
      obtain ⟨-, rfl⟩ := (forward_eq_ok hl hcodec hrows hnamed hshort base limit).mp hforward
      rw [length_pagesFrom] at hmore ⊢
      obtain ⟨k, hk⟩ : ∃ k, min (limit + 1) (l.pageCount rows) = k + 1 :=
        Nat.exists_eq_succ_of_ne_zero (by rw [pageCount]; omega)
      obtain ⟨extra, rfl⟩ : ∃ extra, more = k + extra := ⟨more - k, by omega⟩
      rw [hk, pagesFrom_concat, List.getLast?_concat, Nat.zero_add] at hlast
      obtain rfl := Option.some.inj hlast
      rw [hk, pagesFrom_concat, List.dropLast_concat,
        backwardOn_eq_ok hl hcodec hrows hnamed hshort base k extra (by omega)]
      constructor
      · rintro ⟨hbetween, -⟩ i hi hlt
        exact hbetween i hi (by omega)
      · intro hbetween
        exact ⟨fun i hi hle => hbetween i hi (by omega), rfl⟩

end Backward

/-- **Pages lead back to each other** exactly when the rows whose tokens are used are readable and
the page is a full window: the last rows up to its end, or the first ones from its beginning. A
boundary without a binary fraction always gives such a window. A backward walk from the last page of
a forward walk returns its other pages in reverse exactly when the rows that begin them are
readable. -/
theorem reversible_iff {l : Listing} {schema : Schema} {sort : String} {tie : Option String}
    (hcompile : SortOrder.compile schema sort tie = .ok l.order)
    (htie : l.order.tieBreaker.isSome) (hsize : 1 ≤ l.size) (hcodec : l.codec.Invertible)
    {rows : List α} (hrows : l.Regular rows) (hnamed : l.Named rows) (hshort : l.Short rows)
    (base : Fetch) :
    (∀ before after spot page, l.spot before after = .ok spot →
      l.page base before after rows = .ok page →
      (∀ token, page.paging.after = some token →
        ∃ above last next below, l.sorted rows = above ++ last :: next :: below ∧
          page.data.getLast? = some last ∧
          (spot.Whole → page.data = (above ++ [last]).rtake l.size) ∧
          (l.ForthAndBack base rows token page ↔ l.Readable last ∧ l.Readable next ∧
            page.data = (above ++ [last]).rtake l.size)) ∧
      ∀ token, page.paging.before = some token →
        ∃ above previous first below, l.sorted rows = above ++ previous :: first :: below ∧
          page.data.head? = some first ∧
          (spot.Whole → page.data = (first :: below).take l.size) ∧
          (l.BackAndForth base rows token page ↔ l.Readable first ∧ l.Readable previous ∧
            page.data = (first :: below).take l.size)) ∧
    ∀ limit pages last more, l.forward base none (List.replicate limit rows) = .ok pages →
      pages.getLast? = some last → pages.length ≤ more + 1 →
      (l.backwardOn base last.paging (List.replicate more rows) = .ok pages.dropLast.reverse ↔
        ∀ i, 0 < i → i < pages.length → l.ReadableAt rows (i * l.size)) := by
  have hl := sound_of_compile hcompile htie hsize
  constructor
  · intro before after spot page hspot hpage
    constructor
    · intro token hafter
      obtain ⟨above, last, next, below, hsorted, hlast, rfl, hfull⟩ :=
        exists_next hl hcodec hrows hnamed hspot hpage hafter
      have hne : l.sorted rows ≠ [] := by simp [hsorted]
      refine ⟨above, last, next, below, hsorted, hlast, ?_, ?_⟩
      · intro hwhole
        have hwindow := data_eq_window hl hrows hspot hpage hne (spot_fits hspot hwhole)
        rw [hwindow]
        exact (window_eq_rtake hl hrows hsorted (hwindow ▸ hlast)).2
      · rw [forthAndBack_iff hl hcodec hrows hnamed hshort hsorted,
          shown_upTo_eq_iff hl hcodec hrows hnamed hspot hpage hsorted hlast hfull]
    · intro token hbefore
      obtain ⟨above, previous, first, below, hsorted, hfirst, rfl, hstart, hfull⟩ :=
        exists_previous hl hcodec hrows hnamed hspot hpage hbefore
      have hne : l.sorted rows ≠ [] := by simp [hsorted]
      refine ⟨above, previous, first, below, hsorted, hfirst, ?_, ?_⟩
      · intro hwhole
        have hwindow := data_eq_window hl hrows hspot hpage hne (spot_fits hspot hwhole)
        rw [hwindow]
        exact window_eq_take hl hrows hsorted (hwindow ▸ hfirst)
      · rw [backAndForth_iff hl hcodec hrows hnamed hshort hsorted,
          shown_from_eq_iff hl hcodec hrows hnamed hspot hpage hsorted hstart hfull]
  · intro limit pages last more hforward hlast hmore
    exact retrace_iff hl hcodec hrows hnamed hshort base hforward hlast hmore

end Listing

namespace Event

/-- From the first page with one of two events to the second one and back. -/
theorem forthAndBack_pair :
    ∃ page, listing.page fetch none none pair = .ok page ∧ page.paging.after = some token ∧
      listing.ForthAndBack fetch pair token page := by
  have hrows : listing.Regular pair := regular (by decide)
  have hshort : listing.Short pair := by decide +kernel
  have hreadable := readable_of_mem (by decide +kernel : ∀ e ∈ pair, (Timestamp.mk e.time).Readable)
  have htoken : (listing.page fetch none none pair).toOption.bind (·.paging.after) =
      some token := by decide +kernel
  cases hpage : listing.page fetch none none pair with
  | error error =>
      rw [hpage] at htoken
      cases htoken
  | ok page =>
      rw [hpage] at htoken
      obtain ⟨above, last, next, below, hsorted, -, hwindow, hreturn⟩ :=
        ((Listing.reversible_iff compile_order rfl (by decide) invertible hrows (named pair) hshort
          fetch).1 none none .start page rfl hpage).1 token htoken
      refine ⟨page, rfl, htoken, hreturn.mpr ⟨?_, ?_, hwindow fun operand h => by cases h⟩⟩
      · exact hreadable last (Listing.mem_sorted.mp (by simp [hsorted]))
      · exact hreadable next (Listing.mem_sorted.mp (by simp [hsorted]))

/-- The second event is in the year 10000. -/
def mixed : List Event := [⟨1, 1000⟩, ⟨2, 253402300800001⟩]

theorem not_forthAndBack_mixed :
    (listing.Regular mixed ∧ listing.Named mixed ∧ listing.Short mixed) ∧
      ∃ page, listing.page fetch none none mixed = .ok page ∧ page.paging.after = some token ∧
        ¬listing.ForthAndBack fetch mixed token page := by
  have hl := Listing.sound_of_compile compile_order rfl (by decide : 1 ≤ listing.size)
  have hrows : listing.Regular mixed := regular (by decide)
  have hshort : listing.Short mixed := by decide +kernel
  refine ⟨⟨hrows, named mixed, hshort⟩, ?_⟩
  have hafter : (listing.page fetch none none mixed).toOption.bind (·.paging.after) =
      some token := by decide +kernel
  cases hpage : listing.page fetch none none mixed with
  | error error =>
      rw [hpage] at hafter
      cases hafter
  | ok page =>
      rw [hpage] at hafter
      refine ⟨page, rfl, hafter, ?_⟩
      have hsorted : listing.sorted mixed = [] ++ ⟨1, 1000⟩ :: ⟨2, 253402300800001⟩ :: [] := by
        decide +kernel
      have hmark : listing.mark (⟨1, 1000⟩ : Event) = token := by decide +kernel
      rw [← hmark, Listing.forthAndBack_iff hl invertible hrows (named mixed) hshort hsorted]
      rintro ⟨-, hreadable, -⟩
      rw [readable_iff] at hreadable
      exact absurd hreadable (by decide +kernel)

end Event

end RecordQuery
