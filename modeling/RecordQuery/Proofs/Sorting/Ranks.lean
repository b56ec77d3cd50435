import Mathlib
import RecordQuery.Sorting.Insertion

/-!
# Sorting by rank

A comparison is consistent if the elements have ranks by which it goes. A list is then arranged if
the ranks ascend and the elements of each rank stand in the order in which they were given. There is
only one such list, and inserting the elements one after the other gives it.
-/

namespace RecordQuery

variable {α β : Type} {rank : α → Int} {xs ys zs : List α}

/-! ### Levels -/

/-- The elements of each rank are the same, in the same order. -/
def SameLevels (rank : α → Int) (xs ys : List α) : Prop :=
  ∀ k, xs.filter (fun x => rank x = k) = ys.filter (fun x => rank x = k)

namespace SameLevels

theorem refl (xs : List α) : SameLevels rank xs xs :=
  fun _ => rfl

theorem symm (h : SameLevels rank xs ys) : SameLevels rank ys xs :=
  fun k => (h k).symm

theorem trans (hxy : SameLevels rank xs ys) (hyz : SameLevels rank ys zs) :
    SameLevels rank xs zs :=
  fun k => (hxy k).trans (hyz k)

theorem append {xs' ys' : List α} (h : SameLevels rank xs ys) (h' : SameLevels rank xs' ys') :
    SameLevels rank (xs ++ xs') (ys ++ ys') := by
  intro k
  rw [List.filter_append, List.filter_append, h k, h' k]

theorem cons (x : α) (h : SameLevels rank xs ys) : SameLevels rank (x :: xs) (x :: ys) :=
  append (refl [x]) h

theorem reverse (h : SameLevels rank xs ys) : SameLevels rank xs.reverse ys.reverse := by
  intro k
  rw [List.filter_reverse, List.filter_reverse, h k]

theorem map {f : β → α} {xs ys : List β} (h : SameLevels (fun x => rank (f x)) xs ys) :
    SameLevels rank (xs.map f) (ys.map f) := by
  intro k
  rw [List.filter_map, List.filter_map]
  exact congrArg (List.map f) (h k)

theorem neg (h : SameLevels rank xs ys) : SameLevels (fun x => -rank x) xs ys := by
  intro k
  simp only [neg_eq_iff_eq_neg]
  exact h (-k)

theorem mem_iff (h : SameLevels rank xs ys) {x : α} : x ∈ xs ↔ x ∈ ys := by
  have hmem := congrArg (x ∈ ·) (h (rank x))
  simpa using hmem

/-- An element passes others of different ranks. -/
theorem middle {y : α} (h : ∀ x ∈ xs, rank x ≠ rank y) :
    SameLevels rank (xs ++ y :: ys) (y :: (xs ++ ys)) := by
  intro k
  by_cases hk : rank y = k
  · have hnone : xs.filter (fun x => rank x = k) = [] := by
      rw [List.filter_eq_nil_iff]
      intro x hx
      simpa [hk] using h x hx
    simp [hk, hnone]
  · simp [hk]

theorem reverse_of_distinct (h : xs.Pairwise fun a b => rank a ≠ rank b) :
    SameLevels rank xs xs.reverse := by
  induction h with
  | nil => exact refl []
  | @cons x xs hx _ ih =>
      rw [List.reverse_cons]
      have hpass : SameLevels rank (xs.reverse ++ [x]) (x :: (xs.reverse ++ [])) :=
        middle fun a ha => (hx a (List.mem_reverse.mp ha)).symm
      rw [List.append_nil] at hpass
      exact (ih.cons x).trans hpass.symm

theorem partition {cut : α → Bool}
    (h : ∀ x ∈ xs, ∀ y ∈ xs, cut x = true → cut y = false → rank x ≠ rank y) :
    SameLevels rank xs (xs.filter cut ++ xs.filter fun x => !cut x) := by
  induction xs with
  | nil => exact .refl []
  | cons x xs ih =>
      have hrest := (ih fun a ha b hb => h a (by simp [ha]) b (by simp [hb])).cons x
      cases hx : cut x with
      | true => simpa [hx] using hrest
      | false =>
          have hpass : SameLevels rank (xs.filter cut ++ x :: xs.filter fun x => !cut x)
              (x :: (xs.filter cut ++ xs.filter fun x => !cut x)) := .middle fun a ha => by
            obtain ⟨ha, hcut⟩ := List.mem_filter.mp ha
            exact h a (by simp [ha]) x (by simp) hcut hx
          simpa [hx] using hrest.trans hpass.symm

end SameLevels

/-! ### Arranged lists -/

/-- The ranks of the second list ascend, and it has the levels of the first one. -/
structure Arranges (rank : α → Int) (xs ys : List α) : Prop where
  ascending : ys.Pairwise fun a b => rank a ≤ rank b
  levels : SameLevels rank xs ys

namespace Arranges

theorem of_levels (h : Arranges rank ys zs) (hlevels : SameLevels rank xs ys) :
    Arranges rank xs zs :=
  ⟨h.ascending, hlevels.trans h.levels⟩

theorem self (h : xs.Pairwise fun a b => rank a ≤ rank b) : Arranges rank xs xs :=
  ⟨h, .refl xs⟩

theorem cons {x : α} (h : Arranges rank xs ys) (hx : ∀ a ∈ xs, rank x ≤ rank a) :
    Arranges rank (x :: xs) (x :: ys) :=
  ⟨h.ascending.cons fun a ha => hx a (h.levels.mem_iff.mpr ha), h.levels.cons x⟩

theorem map {f : β → α} {xs ys : List β} (h : Arranges (fun x => rank (f x)) xs ys) :
    Arranges rank (xs.map f) (ys.map f) :=
  ⟨List.pairwise_map.mpr h.ascending, h.levels.map⟩

theorem head_le {y z : α} (hy : Arranges rank xs (y :: ys)) (hz : Arranges rank xs (z :: zs)) :
    rank y ≤ rank z := by
  have hmem : z ∈ y :: ys := (hy.levels.symm.trans hz.levels).mem_iff.mpr (by simp)
  rcases List.mem_cons.mp hmem with rfl | hmem
  · exact le_refl _
  · exact List.rel_of_pairwise_cons hy.ascending hmem

theorem tail {y : α} (hy : Arranges rank xs (y :: ys)) : Arranges rank ys ys :=
  self hy.ascending.of_cons

/-- **There is only one arranged list.** -/
theorem unique (hy : Arranges rank xs ys) (hz : Arranges rank xs zs) : ys = zs := by
  induction ys generalizing xs zs with
  | nil =>
      have hlevels := hy.levels.symm.trans hz.levels
      cases zs with
      | nil => rfl
      | cons z zs => exact absurd (hlevels.mem_iff.mpr (by simp : z ∈ z :: zs)) (by simp)
  | cons y ys ih =>
      have hlevels := hy.levels.symm.trans hz.levels
      cases zs with
      | nil => exact absurd (hlevels.mem_iff.mp (by simp : y ∈ y :: ys)) (by simp)
      | cons z zs =>
          have hrank : rank y = rank z := le_antisymm (hy.head_le hz) (hz.head_le hy)
          have hfirst := hlevels (rank y)
          rw [List.filter_cons_of_pos (by simp), List.filter_cons_of_pos (by simp [hrank])] at hfirst
          obtain ⟨rfl, -⟩ := List.cons.inj hfirst
          refine congrArg _ (ih hy.tail ⟨hz.ascending.of_cons, fun k => ?_⟩)
          by_cases hk : rank y = k
          · simpa [List.filter_cons, hk] using hlevels k
          · simpa [List.filter_cons, hk] using hlevels k

end Arranges

/-! ### Consistent comparisons -/

section Comparison

variable {less : α → α → Bool} {all : List α}

/-- The comparison of the elements goes by their ranks. -/
def ComparesBy (less : α → α → Bool) (rank : α → Int) (xs : List α) : Prop :=
  ∀ a ∈ xs, ∀ b ∈ xs, less a b = decide (rank a < rank b)

/-- The elements have ranks by which the comparison goes. -/
def Consistent (less : α → α → Bool) (xs : List α) : Prop :=
  ∃ rank : α → Int, ComparesBy less rank xs

theorem ComparesBy.subset (h : ComparesBy less rank all) (hxs : xs ⊆ all) :
    ComparesBy less rank xs :=
  fun a ha b hb => h a (hxs ha) b (hxs hb)

theorem Consistent.subset (h : Consistent less all) (hxs : xs ⊆ all) : Consistent less xs :=
  let ⟨rank, hrank⟩ := h
  ⟨rank, hrank.subset hxs⟩

theorem countP_lt_countP {p q : α → Bool} {x : α} (h : ∀ y ∈ xs, p y = true → q y = true)
    (hx : x ∈ xs) (hp : p x = false) (hq : q x = true) : xs.countP p < xs.countP q := by
  obtain ⟨before, behind, rfl⟩ := List.append_of_mem hx
  have hbefore : before.countP p ≤ before.countP q :=
    List.countP_mono_left fun y hy => h y (by simp [hy])
  have hbehind : behind.countP p ≤ behind.countP q :=
    List.countP_mono_left fun y hy => h y (by simp [hy])
  rw [List.countP_append, List.countP_append, List.countP_cons_of_neg (by simp [hp]),
    List.countP_cons_of_pos hq]
  omega

/-- A comparison that is transitive is consistent: the rank of an element is the number of elements
that come before it. -/
theorem consistent_of_isLE_trans {cmp : α → α → Ordering} (hswap : ∀ a b, cmp a b = (cmp b a).swap)
    (htrans : ∀ a ∈ xs, ∀ b ∈ xs, ∀ c ∈ xs, (cmp a b).isLE → (cmp b c).isLE → (cmp a c).isLE) :
    Consistent (fun a b => cmp a b == .lt) xs := by
  have hless : ∀ {a b}, cmp a b = .lt ↔ ¬(cmp b a).isLE := by
    intro a b
    rw [hswap a b]
    cases cmp b a <;> decide
  have hbefore : ∀ a ∈ xs, ∀ b ∈ xs, ∀ c ∈ xs, cmp c a = .lt → (cmp a b).isLE → cmp c b = .lt := by
    intro a ha b hb c hc hca hab
    rw [hless] at hca ⊢
    exact fun hbc => hca (htrans a ha b hb c hc hab hbc)
  refine ⟨fun a => xs.countP fun c => cmp c a == .lt, fun a ha b hb => ?_⟩
  by_cases hab : cmp a b = .lt
  · have haa : cmp a a ≠ .lt := by
      intro hlt
      have hgt := hswap a a
      rw [hlt] at hgt
      cases hgt
    have hlt : xs.countP (fun c => cmp c a == .lt) < xs.countP fun c => cmp c b == .lt := by
      refine countP_lt_countP (fun c hc hca => ?_) ha (by simpa using haa) (by simpa using hab)
      have hle : (cmp a b).isLE := by rw [hab]; rfl
      simpa using hbefore a ha b hb c hc (by simpa using hca) hle
    simp [hab, hlt]
  · have hle : xs.countP (fun c => cmp c b == .lt) ≤ xs.countP fun c => cmp c a == .lt := by
      refine List.countP_mono_left fun c hc hcb => ?_
      have hba : (cmp b a).isLE := by rwa [hless, not_not] at hab
      simpa using hbefore b hb a ha c hc (by simpa using hcb) hba
    have hfalse : (cmp a b == .lt) = false := by simpa using hab
    dsimp only
    rw [hfalse, eq_comm, decide_eq_false_iff_not]
    omega

/-! ### Insertion -/

theorem insertDescending_perm (less : α → α → Bool) (x : α) (ys : List α) :
    (insertDescending less x ys).Perm (x :: ys) := by
  induction ys with
  | nil => rfl
  | cons y ys ih =>
      rw [insertDescending]
      split
      · exact (ih.cons y).trans (List.Perm.swap x y ys)
      · rfl

theorem insertDescending_levels {x : α} (h : ∀ y ∈ ys, less x y = decide (rank x < rank y)) :
    SameLevels rank (x :: ys) (insertDescending less x ys) := by
  induction ys with
  | nil => exact .refl [x]
  | cons y ys ih =>
      rw [insertDescending, h y (by simp)]
      split
      next hless =>
        have hne : rank x ≠ rank y := (of_decide_eq_true hless).ne
        have hpass : SameLevels rank ([x] ++ y :: ys) (y :: ([x] ++ ys)) := .middle (by simpa)
        exact hpass.trans ((ih fun z hz => h z (by simp [hz])).cons y)
      next => exact .refl _

theorem insertDescending_descending {x : α} (h : ∀ y ∈ ys, less x y = decide (rank x < rank y))
    (hys : ys.Pairwise fun a b => rank b ≤ rank a) :
    (insertDescending less x ys).Pairwise fun a b => rank b ≤ rank a := by
  induction ys with
  | nil => simp [insertDescending]
  | cons y ys ih =>
      obtain ⟨hy, hrest⟩ := List.pairwise_cons.mp hys
      rw [insertDescending, h y (by simp)]
      split
      next hless =>
        have hless := of_decide_eq_true hless
        refine List.pairwise_cons.mpr ⟨fun z hz => ?_, ih (fun z hz => h z (by simp [hz])) hrest⟩
        rcases List.mem_cons.mp ((insertDescending_perm less x ys).mem_iff.mp hz) with rfl | hz
        · exact hless.le
        · exact hy z hz
      next hless =>
        have hle : rank y ≤ rank x := by simpa using hless
        refine List.pairwise_cons.mpr ⟨fun z hz => ?_, hys⟩
        rcases List.mem_cons.mp hz with rfl | hz
        · exact hle
        · exact (hy z hz).trans hle

theorem foldl_insertDescending_perm (less : α → α → Bool) (xs sorted : List α) :
    (xs.foldl (fun sorted x => insertDescending less x sorted) sorted).Perm (xs ++ sorted) := by
  induction xs generalizing sorted with
  | nil => rfl
  | cons x xs ih =>
      refine (ih _).trans ?_
      exact ((insertDescending_perm less x sorted).append_left xs).trans List.perm_middle

/-- Insertion keeps a descending list descending and puts each element behind those level with it,
seen from the end. -/
theorem foldl_insertDescending_arranges {sorted : List α}
    (h : ComparesBy less rank (sorted ++ xs))
    (hsorted : sorted.Pairwise fun a b => rank b ≤ rank a) :
    (xs.foldl (fun sorted x => insertDescending less x sorted) sorted).Pairwise
        (fun a b => rank b ≤ rank a) ∧
      SameLevels rank (xs.reverse ++ sorted)
        (xs.foldl (fun sorted x => insertDescending less x sorted) sorted) := by
  induction xs generalizing sorted with
  | nil => exact ⟨hsorted, .refl _⟩
  | cons x xs ih =>
      have hx : ∀ y ∈ sorted, less x y = decide (rank x < rank y) :=
        fun y hy => h x (by simp) y (by simp [hy])
      have hnext : insertDescending less x sorted ++ xs ⊆ sorted ++ x :: xs :=
        (((insertDescending_perm less x sorted).append_right xs).trans
          List.perm_middle.symm).subset
      obtain ⟨hdescending, hlevels⟩ := ih (h.subset hnext) (insertDescending_descending hx hsorted)
      refine ⟨hdescending, ?_⟩
      rw [List.reverse_cons, List.append_assoc]
      exact ((SameLevels.refl _).append (insertDescending_levels hx)).trans hlevels

theorem insertAll_perm (less : α → α → Bool) (sorted xs : List α) :
    (insertAll less sorted xs).Perm (sorted ++ xs) := by
  refine (List.reverse_perm _).trans ((foldl_insertDescending_perm less xs _).trans ?_)
  exact ((List.reverse_perm sorted).append_left xs).trans List.perm_append_comm

theorem insertAll_arranges {sorted : List α} (h : ComparesBy less rank (sorted ++ xs))
    (hsorted : sorted.Pairwise fun a b => rank a ≤ rank b) :
    Arranges rank (sorted ++ xs) (insertAll less sorted xs) := by
  have hreversed : ComparesBy less rank (sorted.reverse ++ xs) := h.subset (by simp)
  obtain ⟨hdescending, hlevels⟩ :=
    foldl_insertDescending_arranges hreversed (List.pairwise_reverse.mpr hsorted)
  refine ⟨List.pairwise_reverse.mpr hdescending, ?_⟩
  simpa [insertAll] using hlevels.reverse

theorem stableSort_perm (less : α → α → Bool) (xs : List α) : (stableSort less xs).Perm xs :=
  insertAll_perm less [] xs

theorem stableSort_arranges (h : ComparesBy less rank xs) :
    Arranges rank xs (stableSort less xs) := by
  have hwhole : ComparesBy less rank ([] ++ xs) := h
  exact insertAll_arranges hwhole .nil

end Comparison

end RecordQuery
