import RecordQuery.Proofs.ErrorOrigin
import RecordQuery.Proofs.Sorting.Stable
import RecordQuery.Proofs.TotalOrder

/-!
# Rows in memory

A fetch of rows in memory can fail only if more than twenty of them are sorted and the order does
not compare them transitively. As long as the fetches of a plan are safe from that, the plan is
carried out as if sorting never failed. Rows whose keys are absent or of their declared kinds are
always compared transitively.
-/

namespace RecordQuery

variable {α : Type} [Queryable α] {rows : List α}

/-! ### Transitive orders -/

namespace SortOrder

variable {order : SortOrder}

/-- The order compares the rows transitively. -/
def Transitive (order : SortOrder) (rows : List α) : Prop :=
  ∀ a ∈ rows, ∀ b ∈ rows, ∀ c ∈ rows,
    (order.compare (Queryable.record a) (Queryable.record b)).isLE →
    (order.compare (Queryable.record b) (Queryable.record c)).isLE →
    (order.compare (Queryable.record a) (Queryable.record c)).isLE

theorem transitive_of_fits (h : ∀ row ∈ rows, order.Fits (Queryable.record row)) :
    order.Transitive rows :=
  fun a ha b hb c hc => compare_isLE_trans (h a ha) (h b hb) (h c hc)

theorem Transitive.reversed (h : order.Transitive rows) : order.reversed.Transitive rows := by
  intro a ha b hb c hc hab hbc
  rw [compare_reversed, ← compare_swap] at hab hbc ⊢
  exact h c hc b hb a ha hbc hab

theorem Transitive.consistent (h : order.Transitive rows) :
    Consistent (Source.precedes order) rows :=
  consistent_of_isLE_trans (fun _ _ => order.compare_swap _ _) h

end SortOrder

/-! ### Fetching -/

namespace Source

variable {order : Option SortOrder}

/-- Sorting the rows cannot fail. -/
def Sortable (order : Option SortOrder) (rows : List α) : Prop :=
  rows.length ≤ 20 ∨ ∀ keys ∈ order, keys.Transitive rows

theorem Sortable.sublist {some : List α} (h : Sortable order rows) (hsome : some.Sublist rows) :
    Sortable order some := by
  rcases h with hshort | htransitive
  · exact .inl (hsome.length_le.trans hshort)
  · exact .inr fun keys hkeys a ha b hb c hc =>
      htransitive keys hkeys a (hsome.subset ha) b (hsome.subset hb) c (hsome.subset hc)

theorem Sortable.reversed {keys : SortOrder} (h : Sortable (some keys) rows) :
    Sortable (some keys.reversed) rows := by
  refine h.imp_right fun htransitive => ?_
  simpa using (htransitive keys rfl).reversed

theorem arrange?_of_sortable (h : Sortable order rows) :
    arrange? order rows = some (arrange order rows) := by
  cases order with
  | none => rfl
  | some keys =>
      rcases h with hshort | htransitive
      · rw [arrange?, Sorting.sort?, if_pos hshort]
        rfl
      · exact Sorting.sort?_eq_stableSort (htransitive keys rfl).consistent

/-- Sorting leaves nothing out. -/
theorem arrange?_perm {arranged : List α} (h : arrange? order rows = some arranged) :
    arranged.Perm rows := by
  cases order with
  | none =>
      cases h
      rfl
  | some keys => exact Sorting.sort?_perm h

theorem fetch_inMemory {request : Fetch}
    (h : Sortable request.order (select request.filter rows)) :
    (inMemory rows).fetch request = some ((ofList rows).fetch request) := by
  rw [inMemory, ofList]
  dsimp only
  rw [arrange?_of_sortable h]
  rfl

end Source

/-! ### Plans -/

/-- The fetches that a plan may make. -/
def Plan.fetches : Plan → List Fetch
  | .list fetch => [fetch]
  | .count _ => []
  | .window _ fetch _ _ => [fetch]
  | .keyset pager base =>
    [pager.edgeFetch base pager.sort, pager.edgeFetch base pager.sort.reversed,
      pager.rowsFetch base]

/-- None of the fetches of a plan can fail. -/
def Plan.Safe (plan : Plan) (rows : List α) : Prop :=
  ∀ fetch ∈ plan.fetches, Source.Sortable fetch.order (Source.select fetch.filter rows)

namespace KeysetPager

variable {pager : KeysetPager} {base : Fetch}

theorem edge_inMemory {order : SortOrder}
    (h : Source.Sortable (some order) (Source.select pager.filter rows)) :
    pager.edge (Source.inMemory rows) base order =
      some (pager.edge (Source.ofList rows) base order).run := by
  have hfetch : (Source.inMemory rows).fetch (pager.edgeFetch base order) = _ :=
    Source.fetch_inMemory h
  exact congrArg (· >>= fun rows => pure rows.head?) hfetch

theorem rows_inMemory (h : Source.Sortable (pager.rowsFetch base).order
      (Source.select (pager.rowsFetch base).filter rows)) :
    pager.rows (Source.inMemory rows) base =
      some (pager.rows (Source.ofList rows) base).run := by
  have hfetch := Source.fetch_inMemory h
  unfold KeysetPager.rows
  unfold rowsFetch at hfetch
  cases hposition : pager.position with
  | start | after filter =>
      rw [hposition] at hfetch
      exact hfetch
  | before filter =>
      rw [hposition] at hfetch
      exact congrArg (· >>= fun rows => pure rows.reverse) hfetch

theorem run_inMemory (h : (Plan.keyset pager base).Safe rows) :
    pager.run (Source.inMemory rows) base = some (pager.run (Source.ofList rows) base).run := by
  obtain ⟨hfirst, hlast, hrows⟩ : _ ∧ _ ∧ _ := by simpa [Plan.Safe, Plan.fetches] using h
  unfold run
  by_cases hempty : (Source.select pager.filter rows).length = 0
  · exact (if_pos hempty).trans (congrArg some (if_pos hempty).symm)
  · refine (if_neg hempty).trans (Eq.trans ?_ (congrArg some (if_neg hempty).symm))
    rw [edge_inMemory hfirst, edge_inMemory hlast, rows_inMemory hrows]
    rfl

/-- The rows of a page are chosen among those of the whole set and sorted one way or the other. -/
theorem sortable_rowsFetch {before after : Option String}
    (hposition : readPosition pager.filter pager.sort before after pager.codec =
      .ok pager.position)
    (h : Source.Sortable (some pager.sort) (Source.select pager.filter rows)) :
    Source.Sortable (pager.rowsFetch base).order
      (Source.select (pager.rowsFetch base).filter rows) := by
  have hpart (f : Filter) :
      (Source.select (pager.filter.and f) rows).Sublist (Source.select pager.filter rows) := by
    rw [Source.select_and]
    exact List.filter_sublist
  unfold readPosition at hposition
  split at hposition
  · cases hposition
  · obtain ⟨boundary, -, hposition⟩ := bind_eq_ok.mp hposition
    rw [rowsFetch, ← Except.ok.inj hposition]
    exact h.sublist (hpart _)
  · obtain ⟨boundary, -, hposition⟩ := bind_eq_ok.mp hposition
    rw [rowsFetch, ← Except.ok.inj hposition]
    exact h.reversed.sublist (hpart _)
  · rw [rowsFetch, ← Except.ok.inj hposition]
    exact h

theorem safe_of_create {filter : Filter} {order : SortOrder} {size : Nat}
    {before after : Option String} {codec : Codec}
    (hcreate : create filter order size before after codec = .ok pager)
    (h : Source.Sortable (some order) (Source.select filter rows)) (base : Fetch) :
    (Plan.keyset pager base).Safe rows := by
  obtain ⟨-, -, position, hposition, rfl⟩ := create_eq_ok.mp hcreate
  intro fetch hfetch
  simp only [Plan.fetches, List.mem_cons, List.not_mem_nil, or_false] at hfetch
  rcases hfetch with rfl | rfl | rfl
  · exact h
  · exact h.reversed
  · exact sortable_rowsFetch hposition h

end KeysetPager

theorem Plan.run_inMemory {plan : Plan} (h : plan.Safe rows) :
    plan.run (Source.inMemory rows) = some (plan.run (Source.ofList rows)).run := by
  cases plan with
  | list fetch =>
      exact congrArg (Option.map _) (Source.fetch_inMemory (h fetch (by simp [fetches])))
  | count filter => rfl
  | window filter fetch page size =>
      have hfetch := Source.fetch_inMemory (h fetch (by simp [fetches]))
      rw [run, hfetch]
      rfl
  | keyset pager base =>
      rw [run, KeysetPager.run_inMemory h]
      rfl

/-- **What is asked of rows in memory** is answered as if sorting never failed, unless a fetch of
its plan can fail. -/
theorem Evaluator.answer_inMemory {e : Evaluator Id α} (he : e.source = Source.ofList rows)
    {q : Question} (h : ∀ plan, e.plan q = .ok plan → plan.Safe rows) :
    (e.withSource (Source.inMemory rows)).answer q = some (e.answer q).run := by
  rw [answer_eq_carryOut, answer_eq_carryOut, plan_withSource, he]
  cases hplan : e.plan q with
  | error error => rfl
  | ok plan => exact Plan.run_inMemory (h plan hplan)

namespace Listing

variable {l : Listing}

theorem page_of_sortable (h : Source.Sortable (some l.order) (l.matching rows)) (base : Fetch)
    (before after : Option String) :
    (match KeysetPager.create l.filter l.order l.size before after l.codec with
      | .error error => some (.error error)
      | .ok pager => pager.run (Source.inMemory rows) base) =
      some (l.page base before after rows) := by
  rw [page]
  cases hcreate : KeysetPager.create l.filter l.order l.size before after l.codec with
  | error error => rfl
  | ok pager => exact KeysetPager.run_inMemory (KeysetPager.safe_of_create hcreate h base)

/-- **Pages of a listing** over regular rows in memory are those of the one list that the rows stand
for. -/
theorem page_inMemory (hrows : l.Regular rows) (base : Fetch) (before after : Option String) :
    (match KeysetPager.create l.filter l.order l.size before after l.codec with
      | .error error => some (.error error)
      | .ok pager => pager.run (Source.inMemory rows) base) =
      some (l.page base before after rows) :=
  page_of_sortable (.inr fun _ hkeys =>
    Option.some.inj hkeys ▸ SortOrder.transitive_of_fits hrows.fits) base before after

end Listing

end RecordQuery
