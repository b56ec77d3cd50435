import Mathlib
import RecordQuery.Keyed

/-!
# Keyed entries

Collecting entries sorts them, and entries with distinct keys are all kept. Looking up a key finds its
entry. Entries that are sorted already stay as they are.
-/

namespace RecordQuery.Keyed

variable {α : Type} {entries : List (String × α)}

theorem insert_perm {key : String} {value : α} (h : ∀ entry ∈ entries, entry.1 ≠ key) :
    (insert key value entries).Perm ((key, value) :: entries) := by
  induction entries with
  | nil => rfl
  | cons entry entries ih =>
      rw [insert]
      split
      · rfl
      · rw [if_neg fun heq => h entry (by simp) heq.symm]
        exact ((ih fun e he => h e (by simp [he])).cons entry).trans (List.Perm.swap _ _ _)

theorem mem_insert {key : String} {value : α} {entry : String × α}
    (h : entry ∈ insert key value entries) : entry = (key, value) ∨ entry ∈ entries := by
  induction entries with
  | nil => exact Or.inl (List.mem_singleton.mp h)
  | cons first entries ih =>
      rw [insert] at h
      split at h
      · simpa using h
      · split at h
        · rcases List.mem_cons.mp h with rfl | h
          · exact Or.inl rfl
          · exact Or.inr (List.mem_cons_of_mem _ h)
        · rcases List.mem_cons.mp h with rfl | h
          · exact Or.inr List.mem_cons_self
          · exact (ih h).imp_right (List.mem_cons_of_mem _)

/-- Entries stay sorted, also when one of them is replaced. -/
theorem Sorted.insert (h : Sorted entries) (key : String) (value : α) :
    Sorted (Keyed.insert key value entries) := by
  induction entries with
  | nil => simp [Keyed.insert, Sorted]
  | cons entry entries ih =>
      obtain ⟨hfirst, hrest⟩ := List.pairwise_cons.mp h
      rw [Keyed.insert]
      split
      next hlt =>
        refine List.pairwise_cons.mpr ⟨?_, h⟩
        intro e he
        rcases List.mem_cons.mp he with rfl | he
        · exact hlt
        · exact String.lt_trans hlt (hfirst e he)
      next hge =>
        split
        next heq =>
          subst heq
          exact List.pairwise_cons.mpr ⟨hfirst, hrest⟩
        next hne =>
          refine List.pairwise_cons.mpr ⟨?_, ih hrest⟩
          intro e he
          rcases mem_insert he with rfl | he
          · exact Std.lt_of_le_of_ne (Std.not_lt.mp hge) (Ne.symm hne)
          · exact hfirst e he

/-- **Collected entries are sorted by their keys.** -/
theorem ofList_sorted (entries : List (String × α)) : Sorted (ofList entries) := by
  suffices hfold : ∀ sorted : List (String × α), Sorted sorted →
      Sorted (entries.foldl (fun sorted entry => insert entry.1 entry.2 sorted) sorted) from
    hfold [] List.Pairwise.nil
  induction entries with
  | nil => exact fun _ hsorted => hsorted
  | cons entry entries ih => exact fun _ hsorted => ih _ (hsorted.insert entry.1 entry.2)

theorem foldl_insert_perm {sorted : List (String × α)}
    (h : ((entries ++ sorted).map Prod.fst).Nodup) :
    (entries.foldl (fun sorted entry => insert entry.1 entry.2 sorted) sorted).Perm
      (entries ++ sorted) := by
  induction entries generalizing sorted with
  | nil => exact List.Perm.refl _
  | cons entry entries ih =>
      rw [List.cons_append, List.map_cons, List.nodup_cons] at h
      have hnew : ∀ e ∈ sorted, e.1 ≠ entry.1 := by
        intro e he heq
        exact h.1 (List.mem_map.mpr ⟨e, by simp [he], heq⟩)
      have hperm : (entries ++ insert entry.1 entry.2 sorted).Perm (entry :: (entries ++ sorted)) :=
        ((insert_perm hnew).append_left entries).trans List.perm_middle
      exact (ih ((hperm.map Prod.fst).nodup_iff.mpr (List.nodup_cons.mpr h))).trans hperm

theorem ofList_perm (h : (entries.map Prod.fst).Nodup) : (ofList entries).Perm entries := by
  have hfold : (ofList entries).Perm (entries ++ []) := foldl_insert_perm (by simpa using h)
  rwa [List.append_nil] at hfold

theorem Sorted.nodup (h : Sorted entries) : (entries.map Prod.fst).Nodup := by
  rw [List.Nodup, List.pairwise_map]
  refine h.imp ?_
  intro a b hlt heq
  rw [heq] at hlt
  exact String.lt_irrefl _ hlt

theorem ofList_of_sorted (h : Sorted entries) : ofList entries = entries := by
  refine List.Perm.eq_of_pairwise ?_ (ofList_sorted entries) h (ofList_perm h.nodup)
  intro a b _ _ hab hba
  exact absurd hba (String.lt_asymm hab)

theorem get?_of_mem {key : String} {value : α} (h : (entries.map Prod.fst).Nodup)
    (hmem : (key, value) ∈ entries) : get? key entries = some value := by
  induction entries with
  | nil => cases hmem
  | cons entry entries ih =>
      rw [List.map_cons, List.nodup_cons] at h
      rw [get?, List.find?_cons]
      rcases List.mem_cons.mp hmem with rfl | hmem
      · simp
      · have hne : entry.1 ≠ key := by
          intro heq
          exact h.1 (List.mem_map.mpr ⟨(key, value), hmem, heq.symm⟩)
        rw [beq_false_of_ne hne]
        exact ih h.2 hmem

theorem mem_of_get? {key : String} {value : α} (h : get? key entries = some value) :
    (key, value) ∈ entries := by
  obtain ⟨entry, hentry, rfl⟩ := Option.map_eq_some_iff.mp h
  have hkey : entry.1 = key := by simpa using List.find?_some hentry
  rw [← hkey]
  exact List.mem_of_find?_eq_some hentry

end RecordQuery.Keyed
