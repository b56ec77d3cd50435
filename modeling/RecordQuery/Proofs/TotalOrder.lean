import RecordQuery.Proofs.Listing

/-!
# Sort orders as total orders

Comparing two records the other way round turns the answer over, and so does reversing the sort
order, whatever the records hold: values that are not comparable are level either way. On records
whose keys are absent or of their declared kinds the comparison is also transitive. A tie-breaker
that tells the matching rows apart leaves one ascending list of them, which does not depend on where
the rows stood, and the reversed order gives it from its end.
-/

namespace RecordQuery

/-! ### Both ways round -/

theorem compareInt_swap (m n : Int) : compare m n = (compare n m).swap :=
  Std.OrientedCmp.eq_swap

namespace Binary64

theorem compare?_swap (x y : Binary64) : x.compare? y = (y.compare? x).map Ordering.swap := by
  cases x <;> cases y <;> simp only [compare?, Option.map_none, Option.map_some]
  exact congrArg some (compareInt_swap _ _)

end Binary64

theorem Number.compare?_swap (a b : Number) : a.compare? b = (b.compare? a).map Ordering.swap := by
  cases a <;> cases b <;>
    first
    | exact congrArg some (compareInt_swap _ _)
    | exact Binary64.compare?_swap _ _

theorem Timestamp.compare_swap (a b : Timestamp) : a.compare b = (b.compare a).swap :=
  compareInt_swap a.millis.toInt b.millis.toInt

theorem Uuid.compare_swap (a b : Uuid) : a.compare b = (b.compare a).swap :=
  @Std.OrientedCmp.eq_swap Nat Ord.compare _ a.value.toNat b.value.toNat

/-- Values are compared alike from both sides, also where they are not comparable. -/
theorem Value.compare?_swap (a b : Value) : a.compare? b = (b.compare? a).map Ordering.swap := by
  cases a <;> cases b <;>
    first
    | rfl
    | exact Number.compare?_swap _ _
    | exact congrArg some (Timestamp.compare_swap _ _)
    | exact congrArg some (Uuid.compare_swap _ _)
    | exact congrArg some Std.OrientedCmp.eq_swap

theorem Direction.apply_swap (dir : Direction) (ordering : Ordering) :
    dir.apply ordering.swap = (dir.apply ordering).swap := by
  cases dir <;> rfl

namespace SortKey

theorem compare_swap (key : SortKey) (a b : Record) :
    key.compare a b = (key.compare b a).swap := by
  rw [compare, compare, Value.compare?_swap]
  cases (key.path.read b).compare? (key.path.read a) with
  | none => rfl
  | some ordering => exact key.dir.apply_swap ordering

theorem compare_reversed (key : SortKey) (a b : Record) :
    key.reversed.compare a b = (key.compare a b).swap := by
  rw [compare, compare, reversed]
  cases (key.path.read a).compare? (key.path.read b) with
  | none => rfl
  | some ordering => exact key.dir.apply_reversed ordering

end SortKey

namespace SortOrder

theorem compareKeys_swap (a b : Record) (keys : List SortKey) :
    compareKeys a b keys = (compareKeys b a keys).swap := by
  induction keys with
  | nil => rfl
  | cons key keys ih => rw [compareKeys, compareKeys, Ordering.swap_then, key.compare_swap, ih]

theorem compareKeys_reversed (a b : Record) (keys : List SortKey) :
    compareKeys a b (keys.map SortKey.reversed) = (compareKeys a b keys).swap := by
  induction keys with
  | nil => rfl
  | cons key keys ih =>
      rw [List.map_cons, compareKeys, compareKeys, Ordering.swap_then, key.compare_reversed, ih]

theorem compare_swap (order : SortOrder) (a b : Record) :
    order.compare a b = (order.compare b a).swap :=
  compareKeys_swap a b order.keys

theorem compare_reversed (order : SortOrder) (a b : Record) :
    order.reversed.compare a b = (order.compare a b).swap :=
  compareKeys_reversed a b order.keys

theorem compare_self (order : SortOrder) (a : Record) : order.compare a a = .eq := by
  have hswap := order.compare_swap a a
  cases hcompare : order.compare a a <;> simp_all

theorem compare_isLE_trans {order : SortOrder} {a b c : Record} (ha : order.Fits a)
    (hb : order.Fits b) (hc : order.Fits c) (hab : (order.compare a b).isLE)
    (hbc : (order.compare b c).isLE) : (order.compare a c).isLE := by
  rw [compare_eq_tupleCompare ha hb] at hab
  rw [compare_eq_tupleCompare hb hc] at hbc
  rw [compare_eq_tupleCompare ha hc]
  exact Std.TransCmp.isLE_trans hab hbc

end SortOrder

/-! ### One ascending list -/

/-- The same fetch in an order. -/
def Fetch.inOrder (request : Fetch) (order : SortOrder) : Fetch :=
  { request with order := some order }

namespace SortOrder

variable {α : Type} [Queryable α]

/-- The keys of the rows are absent or of their declared kinds, and no two rows have equal values
of the tie-breaker. -/
structure Separates (order : SortOrder) (rows : List α) : Prop where
  tie : order.tieBreaker.isSome
  fits : ∀ row ∈ rows, order.Fits (Queryable.record row)
  distinct : rows.Pairwise fun a b =>
    ∀ key ∈ order.keys, order.tieBreaker = some key.path.text →
      (key.path.read (Queryable.record a)).compare? (key.path.read (Queryable.record b)) ≠ some .eq

/-- The listing of the rows that satisfy a filter. -/
def listing (order : SortOrder) (f : Filter) : Listing :=
  ⟨f, order, 1, ⟨[]⟩⟩

section Separated

variable {order : SortOrder} {f : Filter} {rows : List α} (horder : order.WellFormed)
  (hrows : order.Separates (Source.select f rows))

include hrows

theorem Separates.regular : (order.listing f).Regular rows :=
  ⟨hrows.fits, hrows.distinct⟩

theorem Separates.sound (horder : order.WellFormed) : (order.listing f).Sound :=
  ⟨horder, hrows.tie, Nat.le_refl 1⟩

theorem Separates.perm {other : List α} (hperm : rows.Perm other) :
    order.Separates (Source.select f other) where
  tie := hrows.tie
  fits row hrow := hrows.fits row ((hperm.filter _).mem_iff.mpr hrow)
  distinct := by
    refine ((hperm.filter _).pairwise_iff ?_).mp hrows.distinct
    intro a b hne key hkey htie heq
    rw [Value.compare?_swap] at heq
    obtain ⟨ordering, heq, hswap⟩ := Option.map_eq_some_iff.mp heq
    rw [Ordering.swap_eq_eq] at hswap
    exact hne key hkey htie (heq.trans (congrArg some hswap))

include horder

theorem Separates.untied : Untied (order.listing f).compare (Source.select f rows) :=
  Listing.untied_matching (hrows.sound horder) hrows.regular

/-- **Matching rows at different places are not level.** -/
theorem Separates.compare_eq_iff {i j : Nat} (hi : i < (Source.select f rows).length)
    (hj : j < (Source.select f rows).length) :
    order.compare (Queryable.record (Source.select f rows)[i])
      (Queryable.record (Source.select f rows)[j]) = .eq ↔ i = j := by
  constructor
  · have hlevel := List.pairwise_iff_getElem.mp (hrows.untied horder)
    intro heq
    have heq : (order.listing f).compare (Source.select f rows)[i] (Source.select f rows)[j] = .eq :=
      (Listing.compare_eq (hrows.fits _ (List.getElem_mem hi))
        (hrows.fits _ (List.getElem_mem hj))).symm.trans heq
    rcases Nat.lt_trichotomy i j with hlt | rfl | hlt
    · exact absurd heq (hlevel i j hi hj hlt)
    · rfl
    · exact absurd (Std.OrientedCmp.eq_symm heq) (hlevel j i hj hi hlt)
  · rintro rfl
    exact order.compare_self _

/-- **The ascending list does not depend on where the rows stand.** -/
theorem Separates.sorted_eq_of_perm {other : List α} (hperm : rows.Perm other) :
    (order.listing f).sorted other = (order.listing f).sorted rows := by
  have hother := hrows.perm hperm
  refine (Listing.sorted_ascending (hother.sound horder) hother.regular).eq_of_perm
    (Listing.sorted_ascending (hrows.sound horder) hrows.regular) ?_
  exact ((Listing.sorted_perm _ other).trans (hperm.symm.filter _)).trans
    (Listing.sorted_perm _ rows).symm

end Separated

theorem fetch_inOrder (request : Fetch) (order : SortOrder) (rows : List α) :
    (Source.ofList rows).fetch (request.inOrder order) =
      Source.window request.skip request.take ((order.listing request.filter).sorted rows) := rfl

omit [Queryable α] in
theorem window_sublist (skip : Nat) (take : Option Nat) (rows : List α) :
    (Source.window skip take rows).Sublist rows := by
  cases take with
  | none => exact List.drop_sublist skip rows
  | some n => exact (List.take_sublist n _).trans (List.drop_sublist skip rows)

/-- **Sorting is a total order and reversal is its mirror.** Comparing is turned over by exchanging
the records and by reversing the order, and it is transitive on records that fit. Rows told apart by
a tie-breaker are level with themselves only; fetching them gives one strictly ascending list,
however the rows stood, and in the reversed order the same list from its end. -/
theorem total_and_mirrored {schema : Schema} {text : String} {tie : Option String}
    {order : SortOrder} (hcompile : compile schema text tie = .ok order) :
    (∀ a b, order.compare a b = (order.compare b a).swap ∧
      order.reversed.compare a b = (order.compare a b).swap) ∧
    (∀ a b c, order.Fits a → order.Fits b → order.Fits c →
      (order.compare a b).isLE → (order.compare b c).isLE → (order.compare a c).isLE) ∧
    ∀ {α : Type} [Queryable α] (request : Fetch) (rows : List α),
      order.Separates (Source.select request.filter rows) →
      (∀ i j (hi : i < (Source.select request.filter rows).length)
        (hj : j < (Source.select request.filter rows).length),
        order.compare (Queryable.record (Source.select request.filter rows)[i])
          (Queryable.record (Source.select request.filter rows)[j]) = .eq ↔ i = j) ∧
      ((Source.ofList rows).fetch (request.inOrder order)).run.Pairwise (fun a b =>
        order.compare (Queryable.record a) (Queryable.record b) = .lt) ∧
      (∀ other, rows.Perm other → (Source.ofList other).fetch (request.inOrder order) =
        (Source.ofList rows).fetch (request.inOrder order)) ∧
      (request.skip = 0 → request.take = none →
        ((Source.ofList rows).fetch (request.inOrder order)).run.Perm
          (Source.select request.filter rows) ∧
        (Source.ofList rows).fetch (request.inOrder order.reversed) =
          ((Source.ofList rows).fetch (request.inOrder order)).run.reverse) := by
  have horder := wellFormed_of_compile hcompile
  refine ⟨fun a b => ⟨order.compare_swap a b, order.compare_reversed a b⟩,
    fun a b c => compare_isLE_trans, ?_⟩
  intro α _ request rows hrows
  have hsound := hrows.sound horder
  have hregular := hrows.regular
  refine ⟨fun i j hi hj => hrows.compare_eq_iff horder hi hj, ?_, ?_, ?_⟩
  · rw [fetch_inOrder]
    exact (Listing.sorted_pairwise_lt hsound hregular).sublist (window_sublist _ _ _)
  · intro other hperm
    rw [fetch_inOrder, fetch_inOrder, hrows.sorted_eq_of_perm horder hperm]
  · intro hskip htake
    rw [fetch_inOrder, hskip, htake]
    refine ⟨Listing.sorted_perm _ rows, ?_⟩
    change Source.window request.skip request.take
      (Source.arrange (some order.reversed) (Source.select request.filter rows)) = _
    rw [hskip, htake]
    exact Listing.arrange_reversed_eq_reverse hsound hregular

end SortOrder

namespace Event

theorem separates_pair : listing.order.Separates (Source.select (.all []) pair) where
  tie := rfl
  fits e _ := fits e
  distinct := by
    have hrows : Event.listing.Regular pair := regular (by decide)
    exact hrows.distinct

/-- The pair of events is fetched in the order of their times, and backwards in the reversed
order. -/
theorem fetch_pair :
    ((Source.ofList pair).fetch (fetch.inOrder listing.order)).run.Pairwise (fun a b =>
      listing.order.compare a.record b.record = .lt) ∧
    (Source.ofList pair.reverse).fetch (fetch.inOrder listing.order) =
      (Source.ofList pair).fetch (fetch.inOrder listing.order) ∧
    (Source.ofList pair).fetch (fetch.inOrder listing.order.reversed) =
      ((Source.ofList pair).fetch (fetch.inOrder listing.order)).run.reverse := by
  obtain ⟨-, -, hfetch⟩ := SortOrder.total_and_mirrored compile_order
  obtain ⟨-, hascending, hperm, hwhole⟩ := hfetch fetch pair separates_pair
  exact ⟨hascending, hperm _ (List.reverse_perm pair).symm, (hwhole rfl rfl).2⟩

end Event

end RecordQuery
