import RecordQuery.Proofs.Sorting.Runs
import RecordQuery.Sorting.Stable

/-!
# Stable sorting

A partition around a pivot separates the levels of a part, so both sides can be sorted apart. With
that every way of sorting gives all elements of the list, and if the comparison is consistent it
gives the one arranged list, which is also that of insertion.
-/

namespace RecordQuery.Sorting

variable {α : Type} {less : α → α → Bool} {rank : α → Int} {all xs ys zs yes no : List α}

/-! ### Partitions -/

theorem partitionAt_perm (test : α → Bool) (place : Nat) (side : Bool) (xs : List α) :
    ((partitionAt test place side xs).1 ++ (partitionAt test place side xs).2).Perm xs := by
  rw [partitionAt, List.partition_eq_filter_filter, ← List.map_append]
  exact ((List.filter_append_perm _ _).map _).trans (.of_eq (List.zipIdx_map_fst 0 xs))

/-- If the pivot is on the side of its own test, the partition is that of the test. -/
theorem partitionAt_eq {test cut : α → Bool} {place : Nat} {side : Bool}
    (htest : ∀ x ∈ xs, test x = cut x)
    (hside : ∀ pivot, xs[place]? = some pivot → cut pivot = side) :
    partitionAt test place side xs = (xs.filter cut, xs.filter fun x => !cut x) := by
  have hcut : ∀ entry ∈ xs.zipIdx, (if entry.2 = place then side else test entry.1) =
      cut entry.1 := by
    rintro ⟨x, i⟩ hentry
    have hget : xs[i]? = some x := List.mem_zipIdx_iff_getElem?.mp hentry
    dsimp only
    split
    next hplace => exact (hside x (hplace ▸ hget)).symm
    next => exact htest x (List.mem_of_getElem? hget)
  have hfilter {p : α × Nat → Bool} {q : α → Bool} (h : ∀ entry ∈ xs.zipIdx, p entry = q entry.1) :
      (xs.zipIdx.filter p).map Prod.fst = xs.filter q := by
    rw [List.filter_congr h]
    conv_rhs => rw [← List.zipIdx_map_fst 0 xs, List.filter_map]
    rfl
  rw [partitionAt, List.partition_eq_filter_filter]
  exact Prod.ext (hfilter hcut) (hfilter fun entry hentry => congrArg not (hcut entry hentry))

/-- A partition by the ranks separates the levels. -/
theorem partition_separates {cut : α → Bool}
    (h : ∀ x y, cut x = true → cut y = false → rank x < rank y) :
    SameLevels rank xs (xs.filter cut ++ xs.filter fun x => !cut x) ∧
      ∀ x ∈ xs.filter cut, ∀ y ∈ xs.filter fun x => !cut x, rank x ≤ rank y := by
  refine ⟨.partition fun x _ y _ hx hy => (h x y hx hy).ne, fun x hx y hy => ?_⟩
  exact (h x y (List.mem_filter.mp hx).2 (by simpa using (List.mem_filter.mp hy).2)).le

/-- Sorting both sides of a partition apart sorts the whole. -/
theorem Rearranges.append (hyes : Rearranges less all yes ys) (hno : Rearranges less all no zs)
    (hperm : (yes ++ no).Perm xs)
    (h : ∀ rank, ComparesBy less rank all →
      SameLevels rank xs (yes ++ no) ∧ ∀ x ∈ yes, ∀ y ∈ no, rank x ≤ rank y) :
    Rearranges less all xs (ys ++ zs) where
  subset _ hx := List.append_subset.mpr ⟨hyes.subset, hno.subset⟩ (hperm.mem_iff.mpr hx)
  perm := (hyes.perm.append hno.perm).trans hperm
  arranges rank hrank := by
    obtain ⟨hlevels, hle⟩ := h rank hrank
    have hys := hyes.arranges rank hrank
    have hzs := hno.arranges rank hrank
    refine ⟨List.pairwise_append.mpr ⟨hys.ascending, hzs.ascending, fun a ha b hb => ?_⟩,
      hlevels.trans (hys.levels.append hzs.levels)⟩
    exact hle a (hyes.perm.mem_iff.mp ha) b (hno.perm.mem_iff.mp hb)

/-! ### Partitioning again and again -/

/-- An element of the list that comes behind none of a part. -/
def Precedes (less : α → α → Bool) (all xs : List α) (a : α) : Prop :=
  a ∈ all ∧ ∀ rank, ComparesBy less rank all → ∀ x ∈ xs, rank a ≤ rank x

theorem Precedes.subset {a : α} (h : Precedes less all xs a) (hys : ys ⊆ xs) :
    Precedes less all ys a :=
  ⟨h.1, fun rank hrank x hx => h.2 rank hrank x (hys hx)⟩

section Pivot

variable {pivot : α} {place : Nat} (hxs : xs ⊆ all) (hpivot : xs[place]? = some pivot)

include hxs hpivot

theorem partitionAt_below (h : ComparesBy less rank all) :
    partitionAt (less · pivot) place false xs =
      (xs.filter fun x => rank x < rank pivot,
        xs.filter fun x => !decide (rank x < rank pivot)) := by
  have hmem := hxs (List.mem_of_getElem? hpivot)
  refine partitionAt_eq (fun x hx => h x (hxs hx) pivot hmem) fun other hother => ?_
  obtain rfl := Option.some.inj (hpivot.symm.trans hother)
  simp

theorem partitionAt_level (h : ComparesBy less rank all) :
    partitionAt (fun x => !less pivot x) place true xs =
      (xs.filter fun x => rank x ≤ rank pivot,
        xs.filter fun x => !decide (rank x ≤ rank pivot)) := by
  have hmem := hxs (List.mem_of_getElem? hpivot)
  refine partitionAt_eq (fun x hx => ?_) fun other hother => ?_
  · rw [h pivot hmem x (hxs hx), ← decide_not, decide_eq_decide, not_lt]
  · obtain rfl := Option.some.inj (hpivot.symm.trans hother)
    simp

theorem precedes_others :
    Precedes less all (partitionAt (less · pivot) place false xs).2 pivot := by
  refine ⟨hxs (List.mem_of_getElem? hpivot), fun rank hrank x hx => ?_⟩
  rw [partitionAt_below hxs hpivot hrank] at hx
  simpa using (List.mem_filter.mp hx).2

theorem below_append (hbelow : Rearranges less all (partitionAt (less · pivot) place false xs).1 ys)
    (hothers : Rearranges less all (partitionAt (less · pivot) place false xs).2 zs) :
    Rearranges less all xs (ys ++ zs) := by
  refine hbelow.append hothers (partitionAt_perm _ _ _ _) fun rank hrank => ?_
  rw [partitionAt_below hxs hpivot hrank]
  refine partition_separates fun x y hx hy => ?_
  rw [decide_eq_true_eq] at hx
  rw [decide_eq_false_iff_not] at hy
  omega

/-- A pivot that precedes the part is level with all elements that do not come behind it. -/
theorem level_append (hprecedes : Precedes less all xs pivot)
    (habove : Rearranges less all (partitionAt (fun x => !less pivot x) place true xs).2 zs) :
    Rearranges less all xs
      ((partitionAt (fun x => !less pivot x) place true xs).1 ++ zs) := by
  have hperm := partitionAt_perm (fun x => !less pivot x) place true xs
  have hlevel : Rearranges less all (partitionAt (fun x => !less pivot x) place true xs).1
      (partitionAt (fun x => !less pivot x) place true xs).1 := by
    refine ⟨fun x hx => hxs (hperm.subset (List.mem_append_left _ hx)), .refl _,
      fun rank hrank => .self ?_⟩
    rw [partitionAt_level hxs hpivot hrank]
    refine List.pairwise_of_forall_mem_list fun x hx y hy => ?_
    obtain ⟨-, hx⟩ := List.mem_filter.mp hx
    obtain ⟨hy, -⟩ := List.mem_filter.mp hy
    exact (of_decide_eq_true hx).trans (hprecedes.2 rank hrank y hy)
  refine hlevel.append habove hperm fun rank hrank => ?_
  rw [partitionAt_level hxs hpivot hrank]
  refine partition_separates fun x y hx hy => ?_
  rw [decide_eq_true_eq] at hx
  rw [decide_eq_false_iff_not] at hy
  omega

theorem precedes_of_least {ancestor : Option α} (hancestor : ∀ a ∈ ancestor, Precedes less all xs a)
    (hleast : (ancestor.any (fun a => !less a pivot) ||
      (partitionAt (less · pivot) place false xs).1.isEmpty) = true) :
    Precedes less all xs pivot := by
  have hmem := hxs (List.mem_of_getElem? hpivot)
  refine ⟨hmem, fun rank hrank x hx => ?_⟩
  rcases Bool.or_eq_true_iff.mp hleast with hany | hempty
  · obtain ⟨a, rfl, hless⟩ := (Option.any_eq_true _ _).mp hany
    obtain ⟨hall, hle⟩ := hancestor a rfl
    rw [hrank a hall pivot hmem, ← decide_not, decide_eq_true_eq, not_lt] at hless
    exact hless.trans (hle rank hrank x hx)
  · rw [partitionAt_below hxs hpivot hrank, List.isEmpty_iff, List.filter_eq_nil_iff] at hempty
    simpa using hempty x hx

end Pivot

/-- **Sorting by partitions** arranges a part if the comparison is consistent. -/
theorem quicksort_yields (limit : Nat) {ancestor : Option α} (hxs : xs ⊆ all)
    (hancestor : ∀ a ∈ ancestor, Precedes less all xs a) :
    Yields less all (Rearranges less all xs) (quicksort less limit ancestor xs) := by
  induction limit generalizing ancestor xs with
  | zero =>
      unfold quicksort
      split
      · exact sortSmall_yields hxs
      · exact sortRuns_yields (.inl rfl) hxs
  | succ limit ih =>
      unfold quicksort
      split
      · exact sortSmall_yields hxs
      split
      next limit' pivot hlimit hpivot =>
        obtain rfl := Nat.succ.inj hlimit
        have hperm := partitionAt_perm (less · pivot) (pivotPlace less xs) false xs
        have hbelow : (partitionAt (less · pivot) (pivotPlace less xs) false xs).1 ⊆ xs :=
          fun x hx => hperm.subset (List.mem_append_left _ hx)
        have hothers : (partitionAt (less · pivot) (pivotPlace less xs) false xs).2 ⊆ xs :=
          fun x hx => hperm.subset (List.mem_append_right _ hx)
        dsimp only
        split
        next hleast =>
          have hprecedes := precedes_of_least hxs hpivot hancestor hleast
          have habove : (partitionAt (fun x => !less pivot x) (pivotPlace less xs) true xs).2 ⊆ xs :=
            fun x hx => (partitionAt_perm _ _ _ _).subset (List.mem_append_right _ hx)
          exact (ih (List.Subset.trans habove hxs) (by simp)).map fun sorted =>
            level_append hxs hpivot hprecedes
        next =>
          refine (ih (List.Subset.trans hothers hxs) fun a ha => ?_).bind fun others hothers => ?_
          · obtain rfl := Option.some.inj ha
            exact precedes_others hxs hpivot
          refine (ih (List.Subset.trans hbelow hxs) fun a ha =>
            (hancestor a ha).subset hbelow).bind fun below hbelow => ?_
          exact .given (below_append hxs hpivot hbelow hothers)
      next => exact sortRuns_yields (.inl rfl) hxs

/-! ### Any list -/

/-- **Stable sorting** arranges the list if the comparison is consistent. -/
theorem sort?_yields (less : α → α → Bool) (xs : List α) :
    Yields less xs (Rearranges less xs xs) (sort? less xs) := by
  rw [sort?]
  split
  · exact .given ⟨.refl xs, stableSort_perm less xs, fun rank => stableSort_arranges⟩
  · refine sortRuns_yields (.inr fun part hpart => ?_) (.refl xs)
    exact quicksort_yields _ hpart (by simp)

/-- What sorting gives has the elements of the list. -/
theorem sort?_perm (h : sort? less xs = some ys) : ys.Perm xs :=
  ((sort?_yields less xs).property ys h).perm

/-- **On a consistent comparison sorting does not fail** and gives the list that insertion gives. -/
theorem sort?_eq_stableSort (h : Consistent less xs) :
    sort? less xs = some (stableSort less xs) := by
  obtain ⟨ys, hys⟩ := Option.isSome_iff_exists.mp ((sort?_yields less xs).isSome h)
  obtain ⟨rank, hrank⟩ := h
  have harranges := ((sort?_yields less xs).property ys hys).arranges rank hrank
  rw [hys, harranges.unique (stableSort_arranges hrank)]

end RecordQuery.Sorting
