import RecordQuery.Proofs.Sorting.Ranks

/-!
# Stable sorting

Where no two elements are level the ascending order of the elements is unique, so sorting commutes
with filtering, and sorting by the opposite order reverses the list.
-/

namespace RecordQuery

variable {α : Type} {cmp : α → α → Ordering}

/-- The earlier elements come strictly before the later ones. -/
def Ascending (cmp : α → α → Ordering) (xs : List α) : Prop :=
  xs.Pairwise fun a b => cmp a b = .lt

/-- No two elements at different places are level. -/
def Untied (cmp : α → α → Ordering) (xs : List α) : Prop :=
  xs.Pairwise fun a b => cmp a b ≠ .eq

/-! ### Sorting -/

theorem insertDescending_congr {less other : α → α → Bool} {x : α} {ys : List α}
    (h : ∀ y ∈ ys, less x y = other x y) :
    insertDescending less x ys = insertDescending other x ys := by
  induction ys with
  | nil => rfl
  | cons y ys ih =>
      rw [insertDescending, insertDescending, h y (by simp), ih fun z hz => h z (by simp [hz])]

theorem stableSort_congr {less other : α → α → Bool} {xs : List α}
    (h : ∀ a ∈ xs, ∀ b ∈ xs, less a b = other a b) : stableSort less xs = stableSort other xs := by
  suffices hfold : ∀ ys sorted : List α, (∀ y ∈ ys, y ∈ xs) → (∀ y ∈ sorted, y ∈ xs) →
      ys.foldl (fun sorted x => insertDescending less x sorted) sorted =
        ys.foldl (fun sorted x => insertDescending other x sorted) sorted by
    rw [stableSort, stableSort, hfold xs [] (fun _ hy => hy) (by simp)]
  intro ys
  induction ys with
  | nil => intros; rfl
  | cons y ys ih =>
      intro sorted hys hsorted
      have hy : y ∈ xs := hys y (by simp)
      rw [List.foldl_cons, List.foldl_cons,
        insertDescending_congr fun z hz => h y hy z (hsorted z hz)]
      refine ih _ (fun z hz => hys z (by simp [hz])) ?_
      intro z hz
      rcases List.mem_cons.mp ((insertDescending_perm _ y sorted).mem_iff.mp hz) with rfl | hz
      · exact hy
      · exact hsorted z hz

theorem stableSort_pairwise [Std.TransCmp cmp] (xs : List α) :
    (stableSort (fun a b => cmp a b == .lt) xs).Pairwise fun a b => (cmp a b).isLE := by
  obtain ⟨rank, hrank⟩ : Consistent (fun a b => cmp a b == .lt) xs :=
    consistent_of_isLE_trans (fun _ _ => Std.OrientedCmp.eq_swap)
      fun _ _ _ _ _ _ => Std.TransCmp.isLE_trans
  have hperm := stableSort_perm (fun a b => cmp a b == .lt) xs
  refine (stableSort_arranges hrank).ascending.imp_of_mem ?_
  intro a b ha hb hle
  have hba : cmp b a ≠ .lt := by
    have hless := hrank b (hperm.mem_iff.mp hb) a (hperm.mem_iff.mp ha)
    rw [decide_eq_false (not_lt.mpr hle)] at hless
    simpa using hless
  rw [← Std.OrientedCmp.isGE_iff_isLE]
  cases hcmp : cmp b a <;> simp_all

/-! ### Elements that are not level -/

variable [Std.TransCmp cmp]

theorem Untied.perm {xs ys : List α} (hxs : Untied cmp xs) (hperm : xs.Perm ys) :
    Untied cmp ys :=
  (hperm.pairwise_iff fun h heq => h (Std.OrientedCmp.eq_symm heq)).mp hxs

theorem stableSort_ascending {xs : List α} (hxs : Untied cmp xs) :
    Ascending cmp (stableSort (fun a b => cmp a b == .lt) xs) := by
  have huntied := hxs.perm (stableSort_perm (fun a b => cmp a b == .lt) xs).symm
  refine (stableSort_pairwise xs).imp₂ ?_ huntied
  intro a b hle hne
  exact (Ordering.isLE_iff_eq_lt_or_eq_eq.mp hle).resolve_right hne

/-- The ascending order of elements is unique. -/
theorem Ascending.eq_of_perm {xs ys : List α} (hxs : Ascending cmp xs) (hys : Ascending cmp ys)
    (hperm : xs.Perm ys) : xs = ys := by
  refine List.Perm.eq_of_pairwise ?_ hxs hys hperm
  intro a b _ _ hab hba
  exact absurd hba (Std.OrientedCmp.not_lt_of_lt hab)

theorem stableSort_filter {xs : List α} (p : α → Bool) (hxs : Untied cmp xs) :
    stableSort (fun a b => cmp a b == .lt) (xs.filter p) =
      (stableSort (fun a b => cmp a b == .lt) xs).filter p := by
  refine (stableSort_ascending (hxs.filter p)).eq_of_perm ((stableSort_ascending hxs).filter p) ?_
  exact (stableSort_perm _ _).trans ((stableSort_perm _ xs).symm.filter p)

theorem stableSort_opposite {xs : List α} (hxs : Untied cmp xs) :
    stableSort (fun a b => cmp b a == .lt) xs =
      (stableSort (fun a b => cmp a b == .lt) xs).reverse := by
  have hopposite : Untied (fun a b => cmp b a) xs :=
    hxs.imp fun h heq => h (Std.OrientedCmp.eq_symm heq)
  refine (stableSort_ascending hopposite).eq_of_perm ?_ ?_
  · exact List.pairwise_reverse.mpr (stableSort_ascending hxs)
  · exact (stableSort_perm _ xs).trans
      ((stableSort_perm _ xs).symm.trans (List.reverse_perm _).symm)

end RecordQuery
