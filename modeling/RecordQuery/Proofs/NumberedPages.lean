import RecordQuery.Proofs.CapturedPresence
import RecordQuery.Proofs.InMemory

/-!
# Numbered pages

Cutting a list into stretches of one size leaves nothing out and repeats nothing. A numbered page is
such a stretch of the list of a specification, with the number of stretches and with flags that tell
whether there is one before and one after it. A number or a size of zero and a window that does not
fit a machine word are refused. Where the rows cannot be sorted there is neither a list nor a page.
-/

namespace RecordQuery

/-! ### Stretches of a list -/

namespace Paging

variable {α : Type}

/-- The rows of the page with a number. The first page has the number 1. -/
def stretch (number size : Nat) (rows : List α) : List α :=
  (rows.drop ((number - 1) * size)).take size

theorem lt_totalPages_iff {total size k : Nat} (hsize : 0 < size) :
    k < totalPages total size ↔ k * size < total := by
  have hdiv : k + 1 ≤ (total + size - 1) / size ↔ (k + 1) * size ≤ total + size - 1 :=
    Nat.le_div_iff_mul_le hsize
  rw [Nat.add_mul, Nat.one_mul] at hdiv
  rw [totalPages, if_neg hsize.ne']
  omega

theorem totalPages_eq_ceilDiv (total size : Nat) : totalPages total size = total ⌈/⌉ size := by
  rw [totalPages, Nat.ceilDiv_eq_add_pred_div]
  split
  next hsize => rw [hsize, Nat.div_zero]
  next => rfl

theorem stretch_succ_ne_nil_iff {k size : Nat} {rows : List α} (hsize : 0 < size) :
    stretch (k + 1) size rows ≠ [] ↔ k * size < rows.length := by
  rw [stretch, Nat.add_sub_cancel, Ne, List.take_eq_nil_iff, List.drop_eq_nil_iff]
  omega

theorem length_stretch_le (number size : Nat) (rows : List α) :
    (stretch number size rows).length ≤ size :=
  List.length_take_le ..

/-- **Consecutive stretches make up the beginning of the list.** -/
theorem flatMap_stretch (rows : List α) (size count : Nat) :
    (List.range count).flatMap (fun i => stretch (i + 1) size rows) =
      rows.take (count * size) := by
  induction count with
  | zero => simp
  | succ count ih =>
      rw [List.range_succ, List.flatMap_append, ih, List.flatMap_singleton, Nat.succ_mul,
        List.take_add]
      rfl

/-- All stretches make up the list. -/
theorem flatMap_stretch_totalPages (rows : List α) {size : Nat} (hsize : 0 < size) :
    (List.range (totalPages rows.length size)).flatMap (fun i => stretch (i + 1) size rows) =
      rows := by
  rw [flatMap_stretch, List.take_of_length_le]
  rw [← Nat.not_lt, ← lt_totalPages_iff hsize]
  exact Nat.lt_irrefl _

end Paging

/-! ### Windows -/

/-- A window is refused exactly for a number or a size of zero or beyond a machine word. -/
theorem offsetWindow_cases (number size : Nat) :
    (offsetWindow number size = .ok ((number - 1) * size, size) ∧
      0 < number ∧ 0 < size ∧ (number - 1) * size < wordCount) ∨
    ((∃ fault, offsetWindow number size = .error (.invalidPagination fault)) ∧
      (number = 0 ∨ size = 0 ∨ wordCount ≤ (number - 1) * size)) := by
  rw [offsetWindow]
  split
  next hnumber => exact Or.inr ⟨⟨_, rfl⟩, Or.inl hnumber⟩
  next hnumber =>
    split
    next hsize => exact Or.inr ⟨⟨_, rfl⟩, Or.inr (Or.inl hsize)⟩
    next hsize =>
      split
      next hword => exact Or.inr ⟨⟨_, rfl⟩, Or.inr (Or.inr hword)⟩
      next hword => exact Or.inl ⟨rfl, by omega, by omega, by omega⟩

theorem offsetWindow_eq {number size : Nat} (hnumber : 0 < number) (hsize : 0 < size)
    (hword : (number - 1) * size < wordCount) :
    offsetWindow number size = .ok ((number - 1) * size, size) := by
  rcases offsetWindow_cases number size with ⟨hwindow, -⟩ | ⟨-, hrefused⟩
  · exact hwindow
  · omega

/-! ### Pages -/

/-- The page with a number of a list that is cut into pages of one size. -/
structure Page.Numbered {α : Type} (page : Page α) (listed : List α) (number size : Nat) : Prop where
  data : page.data = Paging.stretch number size listed
  pageSize : page.paging.pageSize = size
  totalPage : page.paging.totalPage = listed.length ⌈/⌉ size
  currentPage : page.paging.currentPage = some number
  hasNextPage : page.paging.hasNextPage = true ↔ Paging.stretch (number + 1) size listed ≠ []
  hasPreviousPage : page.paging.hasPreviousPage = true ↔ 1 < number

/-- The page with a number, made of a list. -/
def Page.ofList {α : Type} (listed : List α) (number size : Nat) : Page α :=
  ⟨Paging.stretch number size listed, .offset listed.length number size⟩

theorem Page.numbered_ofList {α : Type} (listed : List α) (number : Nat) {size : Nat}
    (hsize : 0 < size) : (ofList listed number size).Numbered listed number size where
  data := rfl
  pageSize := rfl
  totalPage := Paging.totalPages_eq_ceilDiv _ _
  currentPage := rfl
  hasNextPage := by
    rw [Paging.stretch_succ_ne_nil_iff hsize, ← Paging.lt_totalPages_iff hsize]
    exact decide_eq_true_iff
  hasPreviousPage := decide_eq_true_iff

theorem Source.length_arrange {α : Type} [Queryable α] (order : Option SortOrder)
    (rows : List α) : (arrange order rows).length = rows.length := by
  cases order with
  | none => rfl
  | some order => exact (stableSort_perm _ rows).length_eq

theorem PagingConfig.clamp_pos {config : PagingConfig} {size : Nat} :
    0 < config.clamp size ↔ 0 < size := by
  rw [clamp, limit]
  omega

/-- Steps that all succeed give the list of their results. -/
theorem mapM_eq_some {α β : Type} {f : α → Option β} {g : α → β} {xs : List α}
    (h : ∀ x ∈ xs, f x = some (g x)) : xs.mapM f = some (xs.map g) := by
  induction xs with
  | nil => rfl
  | cons x xs ih =>
      rw [List.mapM_cons, h x (by simp), ih fun y hy => h y (by simp [hy])]
      rfl

namespace Evaluator

variable {m : Type → Type} [Monad m] {α : Type} [Queryable α] {rows listed : List α}
  {spec : Specification}

section Windows

variable {e : Evaluator m α} {number size : Nat}

omit [Queryable α] in
theorem paginate_eq (hnumber : 0 < number) (hsize : 0 < size)
    (hword : (number - 1) * e.config.clamp size < wordCount) :
    e.paginate spec ⟨number, size⟩ = do
      let total ← e.count spec
      let data ← e.source.fetch { base spec with
        skip := (number - 1) * e.config.clamp size, take := some (e.config.clamp size) }
      return .ok ⟨data, .offset total number (e.config.clamp size)⟩ := by
  rw [paginate, offsetWindow_eq hnumber (PagingConfig.clamp_pos.mpr hsize) hword]

omit [Queryable α] in
theorem paginate_refused
    (h : number = 0 ∨ size = 0 ∨ wordCount ≤ (number - 1) * e.config.clamp size) :
    ∃ fault, e.paginate spec ⟨number, size⟩ = pure (.error (.invalidPagination fault)) := by
  rcases offsetWindow_cases number (e.config.clamp size) with
    ⟨-, hnumber, hsize, hword⟩ | ⟨⟨fault, hwindow⟩, -⟩
  · rw [PagingConfig.clamp_pos] at hsize
    omega
  · refine ⟨fault, ?_⟩
    rw [paginate, hwindow]

end Windows

/-! ### Rows that can be sorted -/

section OfList

variable {e : Evaluator Id α} (he : e.source = Source.ofList rows)

include he

theorem run_list :
    (e.list spec).run = Source.arrange spec.sort (Source.select spec.predicate rows) := by
  rw [list, he]
  rfl

/-- The page that is shown for a number. -/
theorem run_paginate {number size : Nat} (hnumber : 0 < number) (hsize : 0 < size)
    (hword : (number - 1) * e.config.clamp size < wordCount) :
    (e.paginate spec ⟨number, size⟩).run =
      .ok ⟨Paging.stretch number (e.config.clamp size) (e.list spec).run,
        .offset (e.list spec).run.length number (e.config.clamp size)⟩ := by
  rw [paginate_eq hnumber hsize hword, run_list he, Source.length_arrange, count, he]
  rfl

end OfList

/-! ### Rows in memory -/

section InMemory

variable {e : Evaluator Option α} (he : e.source = Source.inMemory rows)

include he

theorem list_inMemory :
    e.list spec = Source.arrange? spec.sort (Source.select spec.predicate rows) := by
  rw [list, he]
  exact congrFun Option.map_id _

theorem exists_list
    (h : Source.Sortable spec.sort (Source.select spec.predicate rows)) :
    ∃ listed, e.list spec = some listed :=
  ⟨_, (list_inMemory he).trans (Source.arrange?_of_sortable h)⟩

theorem count_inMemory :
    e.count spec = some (Source.select spec.predicate rows).length := by
  rw [count, he]
  rfl

theorem length_listed (hlisted : e.list spec = some listed) :
    listed.length = (Source.select spec.predicate rows).length :=
  (Source.arrange?_perm ((list_inMemory he).symm.trans hlisted)).length_eq

/-- **A numbered page is made of the list**, and there is none without a list. -/
theorem paginate_eq_map {number size : Nat} (hnumber : 0 < number) (hsize : 0 < size)
    (hword : (number - 1) * e.config.clamp size < wordCount) :
    e.paginate spec ⟨number, size⟩ =
      (e.list spec).map fun listed => .ok (.ofList listed number (e.config.clamp size)) := by
  rw [paginate_eq hnumber hsize hword, count_inMemory he, he]
  cases hlisted : e.list spec with
  | none =>
      rw [list_inMemory he] at hlisted
      simp [Source.inMemory, base, hlisted]
  | some listed =>
      rw [Option.map_some, Page.ofList, length_listed he hlisted]
      rw [list_inMemory he] at hlisted
      simp [Source.inMemory, base, hlisted, Source.window, Paging.stretch]

/-- **All pages together show the list.** There are no more rows than a machine word can count. -/
theorem pages_partition (hlisted : e.list spec = some listed) {size : Nat} (hsize : 0 < size)
    (hlength : rows.length ≤ wordCount) :
    ∃ pages : List (Page α),
      (List.range (Paging.totalPages listed.length (e.config.clamp size))).mapM
        (fun i => e.paginate spec ⟨i + 1, size⟩) = some (pages.map .ok) ∧
      pages.flatMap Page.data = listed := by
  have hclamp : 0 < e.config.clamp size := PagingConfig.clamp_pos.mpr hsize
  have hbound : listed.length ≤ rows.length := by
    rw [length_listed he hlisted]
    exact List.length_filter_le _ _
  refine ⟨(List.range (Paging.totalPages listed.length (e.config.clamp size))).map
    fun i => .ofList listed (i + 1) (e.config.clamp size), ?_, ?_⟩
  · rw [List.map_map]
    refine mapM_eq_some fun i hi => ?_
    have hlt := (Paging.lt_totalPages_iff hclamp).mp (List.mem_range.mp hi)
    have hword : (i + 1 - 1) * e.config.clamp size < wordCount := by
      rw [Nat.add_sub_cancel]
      omega
    rw [paginate_eq_map he i.succ_pos hsize hword, hlisted]
    rfl
  · rw [List.flatMap_map]
    exact Paging.flatMap_stretch_totalPages listed hclamp

/-- **Numbered pages partition the list.** There is a list unless more than twenty rows are sorted
that the order does not compare transitively. A page shows the stretch of its number, of at most the
greatest size, and its metadata tell of the stretches around it. All pages together show the list,
and without a list there is no page either. What is no window is refused in any case. -/
theorem numbered_pages_partition (spec : Specification) (size : Nat) :
    (Source.Sortable spec.sort (Source.select spec.predicate rows) →
      ∃ listed, e.list spec = some listed) ∧
    (∀ listed, e.list spec = some listed →
      e.count spec = some listed.length ∧
      (∀ number, 0 < number → 0 < size → (number - 1) * e.config.clamp size < wordCount →
        ∃ page, e.paginate spec ⟨number, size⟩ = some (.ok page) ∧
          page.Numbered listed number (e.config.clamp size) ∧
          page.data.length ≤ max 1 e.config.maxPageSize) ∧
      (0 < size → rows.length ≤ wordCount →
        ∃ pages : List (Page α), (List.range (listed.length ⌈/⌉ e.config.clamp size)).mapM
            (fun i => e.paginate spec ⟨i + 1, size⟩) = some (pages.map .ok) ∧
          pages.flatMap Page.data = listed)) ∧
    (e.list spec = none →
      ∀ number, 0 < number → 0 < size → (number - 1) * e.config.clamp size < wordCount →
        e.paginate spec ⟨number, size⟩ = none) ∧
    (∀ number, number = 0 ∨ size = 0 ∨ wordCount ≤ (number - 1) * e.config.clamp size →
      ∃ fault, e.paginate spec ⟨number, size⟩ = some (.error (.invalidPagination fault))) := by
  refine ⟨exists_list he, ?_, ?_, fun number => paginate_refused⟩
  · intro listed hlisted
    refine ⟨?_, ?_, ?_⟩
    · rw [count_inMemory he, length_listed he hlisted]
    · intro number hnumber hsize hword
      rw [paginate_eq_map he hnumber hsize hword, hlisted]
      refine ⟨_, rfl, Page.numbered_ofList _ _ (PagingConfig.clamp_pos.mpr hsize), ?_⟩
      calc
        (Page.ofList listed number (e.config.clamp size)).data.length ≤ e.config.clamp size :=
          Paging.length_stretch_le _ _ _
        _ ≤ e.config.limit := Nat.min_le_right _ _
        _ = max 1 e.config.maxPageSize := Nat.max_comm _ _
    · intro hsize hlength
      rw [← Paging.totalPages_eq_ceilDiv]
      exact pages_partition he hlisted hsize hlength
  · intro hlisted number hnumber hsize hword
    rw [paginate_eq_map he hnumber hsize hword, hlisted]
    rfl

end InMemory

end Evaluator

namespace Event

/-- Three events, the latest first, on pages of at most two. -/
def triple : Evaluator Option Event :=
  ⟨Source.inMemory (⟨3, 3000⟩ :: pair), { maxPageSize := 2 }, ⟨[]⟩⟩

def byTime : Specification := { sort := some listing.order }

/-- Pages of five events are cut to two. The second page is the last one, and a number whose window
does not fit a machine word is refused. -/
theorem numbered_triple :
    triple.list byTime = some [⟨1, 1000⟩, ⟨2, 2000⟩, ⟨3, 3000⟩] ∧
    (∃ page, triple.paginate byTime ⟨2, 5⟩ = some (.ok page) ∧ page.data = [⟨3, 3000⟩] ∧
      page.paging.totalPage = 2 ∧ page.paging.hasNextPage = false) ∧
    (∃ fault, triple.paginate byTime ⟨2 ^ 63 + 1, 5⟩ =
      some (.error (.invalidPagination fault))) ∧
    ∃ pages : List (Page Event), (List.range 2).mapM (fun i => triple.paginate byTime ⟨i + 1, 5⟩) =
        some (pages.map .ok) ∧
      pages.flatMap Page.data = [⟨1, 1000⟩, ⟨2, 2000⟩, ⟨3, 3000⟩] := by
  obtain ⟨hlist, hlisted, -, hrefused⟩ :=
    Evaluator.numbered_pages_partition (e := triple) rfl byTime 5
  obtain ⟨listed, hlist⟩ := hlist (.inl (by decide))
  obtain rfl : listed = [⟨1, 1000⟩, ⟨2, 2000⟩, ⟨3, 3000⟩] :=
    Option.some.inj (hlist.symm.trans (by decide))
  obtain ⟨-, hpages, hall⟩ := hlisted _ hlist
  obtain ⟨page, hpage, hnumbered, -⟩ := hpages 2 (by decide) (by decide) (by decide)
  refine ⟨hlist, ⟨page, hpage, hnumbered.data, hnumbered.totalPage, ?_⟩, hrefused _ (by decide),
    hall (by decide) (by decide)⟩
  rw [← Bool.not_eq_true, hnumbered.hasNextPage]
  decide

end Event

/-! ### Samples -/

/-- One of twenty-five samples. -/
structure Sample where
  place : Fin 25

namespace Sample

/-- Different whole numbers, but one score is not a number and so level with all the others. -/
def score (place : Fin 25) : Number :=
  if place = 9 then .real .nan else .signed (.ofNat (7 * (place + 1) % 25))

def record (s : Sample) : Record :=
  [("id", .number (.signed (.ofNat (s.place + 1)))), ("score", .number (score s.place))]

instance : Queryable Sample := ⟨record⟩

def samples : Evaluator Option Sample :=
  ⟨Source.inMemory ((List.finRange 25).map Sample.mk), {}, ⟨[]⟩⟩

def byScore : Specification := { sort := some Measurement.order }

/-- Scores decide where they are numbers and identifiers where they are not. -/
def before (a b : Sample) : Bool :=
  if a.place = 9 ∨ b.place = 9 then a.place < b.place
  else 7 * (a.place.val + 1) % 25 < 7 * (b.place.val + 1) % 25

theorem precedes_eq_before : Source.precedes Measurement.order = before := by
  have hplaces : ∀ i j : Fin 25,
      Source.precedes Measurement.order (⟨i⟩ : Sample) ⟨j⟩ = before ⟨i⟩ ⟨j⟩ := by
    decide +kernel
  funext a b
  exact hplaces a.place b.place

theorem sort?_samples :
    Sorting.sort? (Source.precedes Measurement.order) ((List.finRange 25).map Sample.mk) = none := by
  rw [precedes_eq_before]
  cbv

/-- The order has a unique tie-breaker and all samples can be counted. But the score that is not a
number makes the order contradict itself, so that there is no list and not even the empty page after
the last one. -/
theorem contradicting_samples :
    SortOrder.compile Measurement.schema "score" (some "id") = .ok Measurement.order ∧
      samples.count byScore = some 25 ∧ samples.list byScore = none ∧
      samples.paginate byScore ⟨26, 1⟩ = none := by
  have hlist : samples.list byScore = none := by
    rw [Evaluator.list_inMemory rfl]
    exact sort?_samples
  refine ⟨Measurement.compile_order, rfl, hlist, ?_⟩
  rw [Evaluator.paginate_eq_map rfl (by decide) (by decide) (by decide), hlist]
  rfl

end Sample

end RecordQuery
