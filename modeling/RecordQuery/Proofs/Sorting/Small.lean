import RecordQuery.Proofs.Sorting.Merging

/-!
# Sorting small parts

The fixed schemes, insertion and merging from both ends keep the elements of a small part. They
arrange it if the comparison is consistent, and then they do not fail.
-/

namespace RecordQuery.Sorting

variable {α : Type} {less : α → α → Bool} {rank : α → Int} {all xs ys : List α}

/-! ### Fixed schemes -/

theorem sortTwo_rearranges (less : α → α → Bool) {a b : α} (h : [a, b] ⊆ all) :
    Rearranges less all [a, b] [(sortTwo less a b).1, (sortTwo less a b).2] where
  subset := h
  perm := by
    rw [sortTwo]
    split
    · exact .swap a b []
    · rfl
  arranges rank hrank := by
    rw [sortTwo, hrank b (h (by simp)) a (h (by simp))]
    split
    next hlt =>
      have hlt : rank b < rank a := of_decide_eq_true hlt
      have hpass : SameLevels rank ([a] ++ [b]) (b :: ([a] ++ [])) :=
        .middle (by simpa using hlt.ne')
      exact ⟨by simpa using hlt.le, hpass⟩
    next hle => exact .self (by simpa using hle)

theorem mergePairs_perm (a b c d : α) :
    (mergePairs less (a, b) (c, d)).Perm [a, b, c, d] := by
  classical
  rw [List.perm_iff_count]
  intro x
  simp only [mergePairs]
  cases less c a <;> cases less d b <;> simp <;> split <;> simp [List.count_cons] <;> omega

/-- On sorted pairs the scheme gives what merging gives. -/
theorem mergePairs_eq_mergeUp {a b c d : α} (h : ComparesBy less rank [a, b, c, d])
    (hab : rank a ≤ rank b) (hcd : rank c ≤ rank d) :
    mergePairs less (a, b) (c, d) = mergeUp less [a, b] [c, d] := by
  have hca := h c (by simp) a (by simp)
  have hdb := h d (by simp) b (by simp)
  have hba := h b (by simp) a (by simp)
  have hdc := h d (by simp) c (by simp)
  have hcb := h c (by simp) b (by simp)
  have hda := h d (by simp) a (by simp)
  simp only [mergePairs, mergeUp, List.cons_merge_cons, List.merge_right, List.nil_merge, hca, hdb]
  by_cases hfirst : rank c < rank a <;> by_cases hlast : rank d < rank b <;>
    simp [hfirst, hlast, hba, hdc, hcb, hda] <;> grind

theorem sortFour_rearranges {a b c d : α} (h : [a, b, c, d] ⊆ all) :
    Rearranges less all [a, b, c, d] (sortFour less a b c d) := by
  have hleft := sortTwo_rearranges less (fun x hx => h (by simp at hx ⊢; tauto) : [a, b] ⊆ all)
  have hright := sortTwo_rearranges less (fun x hx => h (by simp at hx ⊢; tauto) : [c, d] ⊆ all)
  refine hleft.merge hright (mergePairs_perm _ _ _ _) fun rank hrank hleft hright => ?_
  rw [sortFour, mergePairs_eq_mergeUp hrank (by simpa using hleft) (by simpa using hright)]
  exact mergeUp_arranges hrank hleft hright

theorem length_sortFour (a b c d : α) : (sortFour less a b c d).length = 4 :=
  (sortFour_rearranges (List.Subset.refl _)).perm.length_eq

/-! ### Halves -/

theorem sortHead_yields (less : α → α → Bool) (h : xs ⊆ all)
    (hlength : xs.length ≤ 1 ∨ xs.length = 4 ∨ xs.length = 8) :
    Yields less all (Rearranges less all xs) (sortHead less xs) := by
  unfold sortHead
  split
  next a b c d => exact .given (sortFour_rearranges h)
  next a b c d e f g i =>
    refine mergeInward_yields (sortFour_rearranges (List.Subset.trans (by simp) h))
      (sortFour_rearranges (List.Subset.trans (by simp) h)) ?_ ?_
    · rw [length_sortFour, length_sortFour]
    · rw [length_sortFour, length_sortFour]
      decide
  next hnotFour hnotEight =>
    refine .given ⟨h, .refl xs, fun rank _ => .self ?_⟩
    rcases hlength with hone | hfour | height
    · match xs, hone with
      | [], _ => exact .nil
      | [x], _ => exact List.pairwise_singleton _ x
    · match xs, hfour with
      | [a, b, c, d], _ => exact (hnotFour a b c d rfl).elim
    · match xs, height with
      | [a, b, c, d, e, f, g, i], _ => exact (hnotEight a b c d e f g i rfl).elim

theorem Rearranges.insertAll {sorted : List α} (h : Rearranges less all xs sorted)
    (hys : ys ⊆ all) :
    Rearranges less all (xs ++ ys) (insertAll less sorted ys) where
  subset := List.append_subset.mpr ⟨h.subset, hys⟩
  perm := (insertAll_perm less sorted ys).trans (h.perm.append_right ys)
  arranges rank hrank := by
    have harranges := h.arranges rank hrank
    refine (insertAll_arranges ?_ harranges.ascending).of_levels
      (harranges.levels.append (.refl ys))
    exact hrank.subset (List.append_subset.mpr ⟨h.subset_all, hys⟩)

theorem sortHalf_yields (h : xs ⊆ all) {first : Nat}
    (hlength : first ≤ 1 ∨ (first = 4 ∨ first = 8) ∧ first ≤ xs.length) :
    Yields less all (Rearranges less all xs) (sortHalf less first xs) := by
  have hhead := sortHead_yields less (List.Subset.trans (List.take_subset first xs) h) (by
    rw [List.length_take]
    omega)
  refine hhead.map fun sorted hsorted => ?_
  have hinserted := hsorted.insertAll (List.Subset.trans (List.drop_subset first xs) h)
  rwa [List.take_append_drop] at hinserted

/-- **A small part is sorted.** -/
theorem sortSmall_yields (h : xs ⊆ all) :
    Yields less all (Rearranges less all xs) (sortSmall less xs) := by
  have hhalf (part : List α) (hpart : part ⊆ all) (hlength : xs.length / 2 ≤ part.length) :
      Yields less all (Rearranges less all part)
        (sortHalf less (if xs.length < 8 then 1 else if xs.length < 16 then 4 else 8) part) :=
    sortHalf_yields hpart (by split_ifs <;> omega)
  refine (hhalf _ (List.Subset.trans (List.take_subset _ xs) h) ?_).bind fun left hleft => ?_
  · rw [List.length_take]
    omega
  refine (hhalf _ (List.Subset.trans (List.drop_subset _ xs) h) ?_).bind fun right hright => ?_
  · rw [List.length_drop]
    omega
  have hmerged := mergeInward_yields hleft hright ?_ ?_
  · rwa [List.take_append_drop] at hmerged
  all_goals
    rw [hleft.perm.length_eq, hright.perm.length_eq, List.length_take, List.length_drop]
    omega

end RecordQuery.Sorting
