import RecordQuery.Proofs.Neighbors

/-!
# Walks

A walk passes the token of each page to the next request, until a page has none. The rows may change
between the requests. What a forward walk returns stays ascending, because each request returns rows
after the last row returned, and no row that stays in place is skipped, because a page ends where
its successor begins.
-/

namespace RecordQuery

namespace Listing

variable {α : Type}

/-- The pages of requests one after the other, each over the rows of one state, as long as a page
has a token that leads on. -/
def walk (request : Option String → List α → Except QueryError (Page α))
    (onward : Paging → Option String) :
    Option String → List (List α) → Except QueryError (List (Page α))
  | _, [] => .ok []
  | token, rows :: states => do
    let page ← request token rows
    match onward page.paging with
    | none => .ok [page]
    | some next => do
      let pages ← walk request onward (some next) states
      .ok (page :: pages)

/-- The pages that follow a page with the given metadata. -/
def walkOn (request : Option String → List α → Except QueryError (Page α))
    (onward : Paging → Option String) (paging : Paging) (states : List (List α)) :
    Except QueryError (List (Page α)) :=
  match onward paging with
  | none => .ok []
  | some next => walk request onward (some next) states

section Walk

variable {request : Option String → List α → Except QueryError (Page α)}
  {onward : Paging → Option String} {token : Option String} {rows : List α}
  {states : List (List α)}

theorem walkOn_nil (request : Option String → List α → Except QueryError (Page α))
    (onward : Paging → Option String) (paging : Paging) :
    walkOn request onward paging [] = .ok [] := by
  rw [walkOn]
  split <;> rfl

theorem walk_cons_eq_ok {pages : List (Page α)} :
    walk request onward token (rows :: states) = .ok pages ↔
      ∃ page rest, request token rows = .ok page ∧
        walkOn request onward page.paging states = .ok rest ∧ page :: rest = pages := by
  rw [walk, bind_eq_ok]
  constructor
  · rintro ⟨page, hpage, hrest⟩
    cases hnext : onward page.paging with
    | none =>
        rw [hnext] at hrest
        exact ⟨page, [], hpage, by rw [walkOn, hnext], Except.ok.inj hrest⟩
    | some next =>
        rw [hnext] at hrest
        obtain ⟨rest, hwalk, hpages⟩ := bind_eq_ok.mp hrest
        exact ⟨page, rest, hpage, by rw [walkOn, hnext]; exact hwalk, Except.ok.inj hpages⟩
  · rintro ⟨page, rest, hpage, hrest, rfl⟩
    refine ⟨page, hpage, ?_⟩
    rw [walkOn] at hrest
    cases hnext : onward page.paging with
    | none =>
        rw [hnext] at hrest
        cases hrest
        rfl
    | some next =>
        rw [hnext] at hrest
        exact bind_eq_ok.mpr ⟨rest, hrest, rfl⟩

end Walk

variable [Queryable α]

/-- The walk that follows the tokens of the next pages. -/
def forward (l : Listing) (base : Fetch) :
    Option String → List (List α) → Except QueryError (List (Page α)) :=
  walk (fun token rows => l.page base none token rows) Paging.after

/-- The walk that goes on forward from a page. -/
def forwardOn (l : Listing) (base : Fetch) :
    Paging → List (List α) → Except QueryError (List (Page α)) :=
  walkOn (fun token rows => l.page base none token rows) Paging.after

/-- The walk that goes on backward from a page. -/
def backwardOn (l : Listing) (base : Fetch) :
    Paging → List (List α) → Except QueryError (List (Page α)) :=
  walkOn (fun token rows => l.page base token none rows) Paging.before

/-! ### One step -/

/-- What the token of a forward request stands for: nothing, or a row. -/
inductive Leads (l : Listing) : Option String → Option α → Prop where
  | start : Leads l none none
  | row {row : α} (hrow : l.Markable row) : Leads l (some (l.mark row)) (some row)

/-- The row comes after the one that the walk has reached. -/
def follows (l : Listing) (reached : Option α) (row : α) : Bool :=
  match reached with
  | none => true
  | some last => l.compare row last == .gt

/-- The rows that a forward walk has still to return. -/
def ahead (l : Listing) (reached : Option α) (rows : List α) : List α :=
  (l.sorted rows).filter (l.follows reached)

section Step

variable {l : Listing} {rows : List α} {token : Option String} {reached : Option α} {page : Page α}

theorem step (hl : l.Sound) (hcodec : l.codec.Invertible) (hrows : l.Regular rows)
    (hnamed : l.Named rows) (hleads : l.Leads token reached) {base : Fetch}
    (hpage : l.page base none token rows = .ok page) :
    page.data = (l.ahead reached rows).take l.size ∧
      page.paging.after =
        if ((l.ahead reached rows).drop l.size).isEmpty then none
        else page.data.getLast?.map l.mark := by
  cases hleads with
  | start =>
      have hahead : l.ahead none rows = l.sorted rows := by simp [ahead, follows]
      rw [page_start hl hcodec hrows hnamed] at hpage
      cases hpage
      rw [hahead]
      exact ⟨rfl, rfl⟩
  | row hrow =>
      rw [page_after hl hcodec hrows hnamed hrow] at hpage
      obtain ⟨boundary, -, rfl⟩ := map_eq_ok.mp hpage
      exact ⟨rfl, rfl⟩

theorem data_of_after_eq_none (hl : l.Sound)
    (hdata : page.data = (l.ahead reached rows).take l.size)
    (hafter : page.paging.after =
      if ((l.ahead reached rows).drop l.size).isEmpty then none
      else page.data.getLast?.map l.mark)
    (hnone : page.paging.after = none) : page.data = l.ahead reached rows := by
  have hsize := hl.size
  by_cases hrest : (l.ahead reached rows).drop l.size = []
  · rw [hdata]
    have hsplit := List.take_append_drop l.size (l.ahead reached rows)
    rw [hrest, List.append_nil] at hsplit
    exact hsplit
  · have hlength : l.size < (l.ahead reached rows).length := by
      simpa [List.drop_eq_nil_iff] using hrest
    have hlast : page.data.getLast? ≠ none := by
      rw [Ne, List.getLast?_eq_none_iff, hdata, List.take_eq_nil_iff]
      rintro (hzero | hnil)
      · omega
      · rw [hnil] at hlength
        simp at hlength
    rw [hnone, if_neg (by simpa using hrest)] at hafter
    cases hlastRow : page.data.getLast? with
    | none => exact absurd hlastRow hlast
    | some last =>
        rw [hlastRow] at hafter
        cases hafter

/-- A token that leads on is the token of the last row of the page. -/
theorem exists_last_of_after {rest : List α} {next : String}
    (hafter : some next = if rest.isEmpty then none else page.data.getLast?.map l.mark) :
    ∃ last, page.data.getLast? = some last ∧ l.mark last = next := by
  split at hafter
  · cases hafter
  · exact Option.map_eq_some_iff.mp hafter.symm

end Step

/-! ### Walks over changing rows -/

theorem pairwise_data {l : Listing} (hl : l.Sound) {rows : List α} (hrows : l.Regular rows)
    {reached : Option α} {page : Page α} (hdata : page.data = (l.ahead reached rows).take l.size) :
    Ascending l.compare page.data := by
  rw [hdata]
  exact ((sorted_ascending hl hrows).filter _).sublist (List.take_sublist _ _)

/-- What the rows that a walk returns have in common. -/
structure Returned (l : Listing) (reached : Option α) (row : α) : Prop where
  follows : l.follows reached row
  markable : l.Markable row

theorem returned_of_mem_data {l : Listing} {rows : List α} (hrows : l.Regular rows)
    (hnamed : l.Named rows) {reached : Option α} {page : Page α}
    (hdata : page.data = (l.ahead reached rows).take l.size) :
    ∀ row ∈ page.data, l.Returned reached row := by
  intro row hrow
  rw [hdata] at hrow
  obtain ⟨hmem, hfollows⟩ := List.mem_filter.mp (List.mem_of_mem_take hrow)
  exact ⟨hfollows, markable_of_mem_sorted hrows hnamed hmem⟩

/-- Rows after the last row of a page come after all rows of the page. -/
theorem lt_of_follows_last {l : Listing} {data : List α} (hdata : Ascending l.compare data)
    {last : α} (hlast : data.getLast? = some last) {row other : α} (hrow : row ∈ data)
    (hother : l.follows (some last) other) : l.compare row other = .lt := by
  have hgt : l.compare last other = .lt :=
    Std.OrientedCmp.lt_of_gt (by simpa [follows] using hother)
  obtain ⟨front, rfl⟩ := List.getLast?_eq_some_iff.mp hlast
  rcases List.mem_append.mp hrow with hrow | hrow
  · rw [Ascending, List.pairwise_append] at hdata
    exact Std.TransCmp.lt_trans (hdata.2.2 row hrow last (by simp)) hgt
  · rw [List.mem_singleton.mp hrow]
    exact hgt

theorem follows_of_follows_last {l : Listing} {reached : Option α} {last other : α}
    (hlast : l.follows reached last) (hother : l.follows (some last) other) :
    l.follows reached other := by
  cases reached with
  | none => rfl
  | some row =>
      have hfirst : l.compare last row = .gt := by simpa [follows] using hlast
      have hsecond : l.compare other last = .gt := by simpa [follows] using hother
      simpa [follows] using Std.TransCmp.gt_trans hsecond hfirst

/-- A row ahead that is not on the page comes after the last row of the page. -/
theorem mem_data_or_follows {l : Listing} (hl : l.Sound) {rows : List α} (hrows : l.Regular rows)
    {reached : Option α} {data : List α} (hdata : data = (l.ahead reached rows).take l.size)
    {last : α} (hlast : data.getLast? = some last) {row : α} (hrow : row ∈ l.ahead reached rows) :
    row ∈ data ∨ l.follows (some last) row := by
  have hascending : Ascending l.compare (l.ahead reached rows) :=
    (sorted_ascending hl hrows).filter _
  rw [← List.take_append_drop l.size (l.ahead reached rows), ← hdata] at hrow hascending
  rcases List.mem_append.mp hrow with hrow | hrow
  · exact Or.inl hrow
  · right
    rw [Ascending, List.pairwise_append] at hascending
    have hlt := hascending.2.2 last (List.mem_of_getLast? hlast) row hrow
    simpa [follows] using Std.OrientedCmp.gt_of_lt hlt

/-- The invariant of a forward walk over changing rows. -/
theorem forward_invariant {l : Listing} (hl : l.Sound) (hcodec : l.codec.Invertible) {base : Fetch}
    {states : List (List α)} (hstates : ∀ rows ∈ states, l.Regular rows ∧ l.Named rows)
    {token : Option String} {reached : Option α} (hleads : l.Leads token reached)
    {pages : List (Page α)} (hwalk : l.forward base token states = .ok pages) :
    Ascending l.compare (pages.flatMap Page.data) ∧
      (∀ row ∈ pages.flatMap Page.data, l.Returned reached row) ∧
      ∀ page, pages.getLast? = some page → page.paging.after = none →
        ∀ row, (∀ rows ∈ states.take pages.length, row ∈ l.matching rows) →
          l.follows reached row → row ∈ pages.flatMap Page.data := by
  -- on the states, for every row that may have been reached: all that is returned later follows it
  induction states generalizing token reached pages with
  | nil =>
      cases hwalk
      exact ⟨List.Pairwise.nil, by simp, by simp⟩
  | cons rows states ih =>
      obtain ⟨hrows, hnamed⟩ := hstates rows (by simp)
      obtain ⟨page, following, hpage, hfollowing, rfl⟩ := walk_cons_eq_ok.mp hwalk
      obtain ⟨hdata, hafter⟩ := step hl hcodec hrows hnamed hleads hpage
      have hascending := pairwise_data hl hrows hdata
      have hreturned := returned_of_mem_data hrows hnamed hdata
      rw [walkOn] at hfollowing
      cases hnext : page.paging.after with
      | none =>
          rw [hnext] at hfollowing
          cases hfollowing
          have hall := data_of_after_eq_none hl hdata hafter hnext
          refine ⟨by simpa using hascending, by simpa using hreturned, ?_⟩
          intro last _ _ row hrow hfollows
          have hmem : row ∈ l.matching rows := hrow rows (by simp)
          rw [List.flatMap_singleton, hall]
          exact List.mem_filter.mpr ⟨mem_sorted.mpr hmem, hfollows⟩
      | some next =>
          rw [hnext] at hfollowing hafter
          obtain ⟨last, hlast, rfl⟩ := exists_last_of_after hafter
          have hlastReturned := hreturned last (List.mem_of_getLast? hlast)
          obtain ⟨hthen, hthenReturned, hcomplete⟩ :=
            ih (fun rows h => hstates rows (by simp [h])) (.row hlastReturned.markable) hfollowing
          rw [List.flatMap_cons]
          refine ⟨List.pairwise_append.mpr ⟨hascending, hthen, ?_⟩, ?_, ?_⟩
          · intro row hrow other hother
            exact lt_of_follows_last hascending hlast hrow (hthenReturned other hother).follows
          · intro row hrow
            rcases List.mem_append.mp hrow with hrow | hrow
            · exact hreturned row hrow
            · obtain ⟨hfollows, hmarkable⟩ := hthenReturned row hrow
              exact ⟨follows_of_follows_last hlastReturned.follows hfollows, hmarkable⟩
          · intro final hfinal hend row hrow hfollows
            have hmem : row ∈ l.matching rows := hrow rows (by simp)
            have hahead : row ∈ l.ahead reached rows :=
              List.mem_filter.mpr ⟨mem_sorted.mpr hmem, hfollows⟩
            rw [List.mem_append]
            rcases mem_data_or_follows hl hrows hdata hlast hahead with hhere | hlater
            · exact Or.inl hhere
            · right
              cases following with
              | nil =>
                  -- the walk was cut off here, but the page has a token
                  rw [List.getLast?_singleton] at hfinal
                  obtain rfl := Option.some.inj hfinal
                  rw [hnext] at hend
                  cases hend
              | cons second others =>
                  refine hcomplete final (by simpa using hfinal) hend row ?_ hlater
                  intro other hother
                  exact hrow other (by
                    rw [List.length_cons, List.take_succ_cons]
                    exact List.mem_cons_of_mem _ hother)

/-- An element of an ascending list stands at one place only. -/
theorem existsUnique_getElem? {l : Listing} {rows : List α} (h : Ascending l.compare rows) {row : α}
    (hrow : row ∈ rows) : ∃! i : Nat, rows[i]? = some row := by
  obtain ⟨i, hi⟩ := List.mem_iff_getElem?.mp hrow
  refine ⟨i, hi, ?_⟩
  intro j hj
  obtain ⟨hilt, hirow⟩ := List.getElem?_eq_some_iff.mp hi
  obtain ⟨hjlt, hjrow⟩ := List.getElem?_eq_some_iff.mp hj
  have hpairwise := List.pairwise_iff_getElem.mp h
  have hself := l.compare_self row
  rcases Nat.lt_trichotomy i j with hlt | heq | hlt
  · have hless := hpairwise i j hilt hjlt hlt
    rw [hirow, hjrow, hself] at hless
    cases hless
  · exact heq.symm
  · have hless := hpairwise j i hjlt hilt hlt
    rw [hirow, hjrow, hself] at hless
    cases hless

/-- A row whose token is accepted. -/
def Accepted (l : Listing) (row : α) : Prop :=
  l.Readable row ∧ (l.mark row).utf8ByteSize ≤ Codec.tokenLimit

/-- A walk goes through as long as the tokens that it uses are accepted. -/
theorem exists_forward {l : Listing} (hl : l.Sound) (hcodec : l.codec.Invertible) (base : Fetch)
    {states : List (List α)} (hstates : ∀ rows ∈ states, l.Regular rows ∧ l.Named rows)
    (haccepted : ∀ rows ∈ states, ∀ row ∈ l.sorted rows, l.Accepted row)
    {token : Option String} {reached : Option α} (hleads : l.Leads token reached)
    (hreached : ∀ row ∈ reached, l.Accepted row) :
    ∃ pages, l.forward base token states = .ok pages := by
  induction states generalizing token reached with
  | nil => exact ⟨[], rfl⟩
  | cons rows states ih =>
      obtain ⟨hrows, hnamed⟩ := hstates rows (by simp)
      obtain ⟨page, hpage⟩ : ∃ page, l.page base none token rows = .ok page := by
        cases hleads with
        | start => exact ⟨_, page_start hl hcodec hrows hnamed base⟩
        | row hrow =>
            obtain ⟨hreadable, hlength⟩ := hreached _ rfl
            obtain ⟨boundary, hboundary⟩ := (accepted_iff hl hcodec hrow hlength).mpr hreadable
            rw [page_after hl hcodec hrows hnamed hrow, hboundary]
            exact ⟨_, rfl⟩
      obtain ⟨hdata, hafter⟩ := step hl hcodec hrows hnamed hleads hpage
      obtain ⟨rest, hrest⟩ : ∃ rest, l.forwardOn base page.paging states = .ok rest := by
        rw [forwardOn, walkOn]
        cases hnext : page.paging.after with
        | none => exact ⟨[], rfl⟩
        | some next =>
            rw [hnext] at hafter
            obtain ⟨last, hlast, rfl⟩ := exists_last_of_after hafter
            have hmem := List.mem_of_getLast? hlast
            have hmarkable := (returned_of_mem_data hrows hnamed hdata last hmem).markable
            rw [hdata] at hmem
            have hsorted := List.mem_of_mem_filter (List.mem_of_mem_take hmem)
            refine ih (fun rows h => hstates rows (by simp [h]))
              (fun rows h => haccepted rows (by simp [h])) (.row hmarkable) ?_
            rintro _ ⟨⟩
            exact haccepted rows (by simp) last hsorted
      exact ⟨page :: rest, walk_cons_eq_ok.mpr ⟨page, rest, hpage, hrest, rfl⟩⟩

/-- **A forward walk is stable while rows come and go.** Whatever the rows are at each request, the
walk goes through if the tokens of the rows are not too long and are read back, and the rows of all
pages in order are strictly ascending. When the walk has ended, each row that matched at every
request was returned exactly once. -/
theorem forward_stable {l : Listing} {schema : Schema} {sort : String} {tie : Option String}
    (hcompile : SortOrder.compile schema sort tie = .ok l.order)
    (htie : l.order.tieBreaker.isSome) (hsize : 1 ≤ l.size) (hcodec : l.codec.Invertible)
    {states : List (List α)} (hstates : ∀ rows ∈ states, l.Regular rows ∧ l.Named rows)
    (base : Fetch) :
    ((∀ rows ∈ states, l.Short rows ∧ ∀ row ∈ l.matching rows, l.Readable row) →
      ∃ pages, l.forward base none states = .ok pages) ∧
    ∀ pages, l.forward base none states = .ok pages →
      ((pages.flatMap Page.data).Pairwise fun a b =>
        l.order.compare (Queryable.record a) (Queryable.record b) = .lt) ∧
      ∀ page, pages.getLast? = some page → page.paging.after = none →
        ∀ row, (∀ rows ∈ states.take pages.length, row ∈ l.matching rows) →
          ∃! i : Nat, (pages.flatMap Page.data)[i]? = some row := by
  have hl := sound_of_compile hcompile htie hsize
  constructor
  · intro htokens
    refine exists_forward hl hcodec base hstates ?_ .start (by simp)
    intro rows hmem row hrow
    obtain ⟨hrows, hnamed⟩ := hstates rows hmem
    obtain ⟨hshort, hreadable⟩ := htokens rows hmem
    exact ⟨hreadable row (mem_sorted.mp hrow),
      mark_length_le hl hcodec hrows hnamed hshort hrow⟩
  · intro pages hwalk
    obtain ⟨hascending, hreturned, hcomplete⟩ :=
      forward_invariant hl hcodec hstates .start hwalk
    constructor
    · exact pairwise_lt hascending fun row hrow => (hreturned row hrow).markable.fits
    · intro page hpage hend row hrow
      exact existsUnique_getElem? hascending (hcomplete page hpage hend row hrow rfl)

end Listing

namespace Event

/-- The first event leaves after the first request, and a third one comes. -/
def changing : List (List Event) := [pair, [⟨3, 3000⟩, ⟨2, 2000⟩], [⟨3, 3000⟩]]

theorem forward_changing :
    ∃ pages, listing.forward fetch none changing = .ok pages ∧
      (pages.flatMap Page.data).map id = [1, 2, 3] ∧
      (pages.flatMap Page.data).Pairwise fun a b =>
        listing.order.compare a.record b.record = .lt := by
  have hstates : ∀ rows ∈ changing, listing.Regular rows ∧ listing.Named rows := by
    intro rows hrows
    have hnodup : ∀ rows ∈ changing, (rows.map id).Nodup := by decide
    exact ⟨regular (hnodup rows hrows), named rows⟩
  have htokens : ∀ rows ∈ changing,
      listing.Short rows ∧ ∀ e ∈ listing.matching rows, listing.Readable e := by
    intro rows hrows
    have hshort : ∀ rows ∈ changing, listing.Short rows := by decide +kernel
    have htimes : ∀ rows ∈ changing, ∀ e ∈ rows, (Timestamp.mk e.time).Readable := by
      decide +kernel
    exact ⟨hshort rows hrows, readable_of_mem (htimes rows hrows)⟩
  have hids : ((listing.forward fetch none changing).toOption.map fun pages =>
      (pages.flatMap Page.data).map id) = some [1, 2, 3] := by decide +kernel
  obtain ⟨hgoes, hstable⟩ :=
    Listing.forward_stable compile_order rfl (by decide) invertible hstates fetch
  obtain ⟨pages, hwalk⟩ := hgoes htokens
  rw [hwalk] at hids
  exact ⟨pages, hwalk, Option.some.inj hids, (hstable pages hwalk).1⟩

end Event

end RecordQuery
