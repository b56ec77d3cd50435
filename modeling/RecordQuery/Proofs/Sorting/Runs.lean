import RecordQuery.Proofs.Sorting.Small

/-!
# Sorting by runs

Each run stands for a part of the list, and the parts make up the list. Joining two neighbours gives
a run that stands for both of their parts. So however the joins are scheduled, the last run stands
for the whole list.
-/

namespace RecordQuery.Sorting

variable {α : Type} {less : α → α → Bool} {rank : α → Int} {all xs ys : List α}
  {finish : List α → Option (List α)}

/-! ### Runs and their parts -/

/-- Parts that were left unsorted can be sorted in the end. -/
def Finishes (less : α → α → Bool) (all : List α) (finish : List α → Option (List α)) : Prop :=
  ∀ part, part ⊆ all → Yields less all (Rearranges less all part) (finish part)

/-- A run is a part of the list, sorted or left as it stands. -/
inductive Run.StandsFor (less : α → α → Bool) (all : List α) (finish : List α → Option (List α)) :
    Run α → List α → Prop where
  | sorted {rows part : List α} (h : Rearranges less all part rows) :
      StandsFor less all finish ⟨rows, true⟩ part
  | unsorted {part : List α} (hpart : part ⊆ all) (hfinish : Finishes less all finish) :
      StandsFor less all finish ⟨part, false⟩ part

namespace Run.StandsFor

variable {run left right : Run α}

theorem settle_yields (h : run.StandsFor less all finish xs) :
    Yields less all (Rearranges less all xs) (run.settle finish) := by
  cases h with
  | sorted h => exact .given h
  | unsorted hpart hfinish => exact hfinish _ hpart

theorem join_yields (hleft : left.StandsFor less all finish xs)
    (hright : right.StandsFor less all finish ys) (space : Nat) :
    Yields less all (StandsFor less all finish · (xs ++ ys)) (left.join less finish space right) := by
  rw [Run.join]
  split
  next =>
    refine hleft.settle_yields.bind fun before hbefore => ?_
    refine hright.settle_yields.bind fun behind hbehind => ?_
    refine .given (.sorted (hbefore.merge hbehind ?_ fun rank => mergeRuns_arranges))
    rw [mergeRuns]
    split
    · exact mergeUp_perm _ _ _
    · exact mergeDown_perm _ _ _
  next hunsorted =>
    cases hleft with
    | sorted => simp at hunsorted
    | unsorted hleft hfinish =>
        cases hright with
        | sorted => simp at hunsorted
        | unsorted hright _ =>
            exact .given (.unsorted (List.append_subset.mpr ⟨hleft, hright⟩) hfinish)

end Run.StandsFor

/-! ### Finding runs -/

theorem climb_le (test : α → α → Bool) (x : α) (xs : List α) : climb test x xs ≤ xs.length := by
  induction xs generalizing x with
  | nil => exact Nat.le_refl 0
  | cons y ys ih =>
      rw [climb]
      split
      · exact Nat.succ_le_succ (ih y)
      · exact Nat.zero_le _

theorem isChain_climb (test : α → α → Bool) (x : α) (xs : List α) :
    (x :: xs.take (climb test x xs)).IsChain fun a b => test b a = true := by
  induction xs generalizing x with
  | nil => exact .singleton x
  | cons y ys ih =>
      rw [climb]
      split
      next htest => exact .cons_cons htest (ih y)
      next => exact .singleton x

theorem climb_pairwise {r : Int → Int → Prop} [Trans r r r] {test : α → α → Bool} {x : α}
    (h : ∀ a ∈ x :: xs, ∀ b ∈ x :: xs, test b a = true → r (rank a) (rank b)) :
    (x :: xs.take (climb test x xs)).Pairwise fun a b => r (rank a) (rank b) := by
  have hsubset : x :: xs.take (climb test x xs) ⊆ x :: xs :=
    List.cons_subset_cons x (List.take_subset _ xs)
  have hchain := (isChain_climb test x xs).imp_of_mem_imp fun a b ha hb =>
    h a (hsubset ha) b (hsubset hb)
  exact List.pairwise_map.mp ((List.isChain_map rank).mpr hchain).pairwise

theorem runLength_pos (less : α → α → Bool) (hxs : xs ≠ []) : 0 < (runLength less xs).1 := by
  cases xs with
  | nil => exact absurd rfl hxs
  | cons x xs =>
      rw [runLength]
      split <;> exact Nat.succ_pos _

theorem runLength_le (less : α → α → Bool) (xs : List α) : (runLength less xs).1 ≤ xs.length := by
  cases xs with
  | nil => exact Nat.le_refl 0
  | cons x xs =>
      rw [runLength]
      split <;> exact Nat.succ_le_succ (climb_le _ x xs)

/-- The beginning of a list, as long as it is in order, is strictly descending or does not
descend. -/
theorem runLength_pairwise (h : ComparesBy less rank xs) :
    ((runLength less xs).2 = true →
      (xs.take (runLength less xs).1).Pairwise fun a b => rank a > rank b) ∧
    ((runLength less xs).2 = false →
      (xs.take (runLength less xs).1).Pairwise fun a b => rank a ≤ rank b) := by
  cases xs with
  | nil => simp
  | cons x xs =>
      rw [runLength]
      split
      next =>
        refine ⟨fun _ => climb_pairwise fun a ha b hb hless => ?_, by simp⟩
        simpa [h b hb a ha] using hless
      next =>
        refine ⟨by simp, fun _ => climb_pairwise fun a ha b hb hless => ?_⟩
        simpa [h b hb a ha] using hless

theorem take_length_take (xs : List α) (n : Nat) : xs.take (xs.take n).length = xs.take n := by
  rw [List.length_take, List.take_eq_take_iff]
  omega

/-- A strictly descending run is turned over. -/
theorem orderedRun_rearranges (less : α → α → Bool) (hxs : xs ⊆ all) :
    Rearranges less all (xs.take (runLength less xs).1)
      (if (runLength less xs).2 then (xs.take (runLength less xs).1).reverse
        else xs.take (runLength less xs).1) where
  subset := List.Subset.trans (List.take_subset _ xs) hxs
  perm := by
    split
    · exact List.reverse_perm _
    · rfl
  arranges rank hrank := by
    obtain ⟨hdescending, hascending⟩ := runLength_pairwise (hrank.subset hxs)
    split
    next h =>
      have hdescending := hdescending h
      refine ⟨List.pairwise_reverse.mpr (hdescending.imp fun hlt => hlt.le), ?_⟩
      exact .reverse_of_distinct (hdescending.imp fun hlt => hlt.ne')
    next h => exact .self (hascending (by simpa using h))

/-- **The first run** stands for as many elements of the list as it has, and it has some. -/
theorem firstRun_yields {eager : Bool} (hfinish : eager = true ∨ Finishes less all finish)
    (hxs : xs ⊆ all) (hne : xs ≠ []) (good : Nat) :
    Yields less all (fun run => 0 < run.rows.length ∧
        run.StandsFor less all finish (xs.take run.rows.length))
      (firstRun less eager good xs) := by
  have hpart (n : Nat) : xs.take n ⊆ all := List.Subset.trans (List.take_subset n xs) hxs
  have hlength := List.length_pos_iff.mpr hne
  have hpos := runLength_pos less hne
  have hle := runLength_le less xs
  have hordered := orderedRun_rearranges less hxs
  rw [firstRun]
  generalize runLength less xs = found at hpos hle hordered
  obtain ⟨n, descending⟩ := found
  dsimp only at hpos hle hordered ⊢
  split
  next =>
    have hrows := hordered.perm.length_eq
    rw [List.length_take, Nat.min_eq_left hle] at hrows
    refine .given ⟨?_, ?_⟩ <;> dsimp only
    · rwa [hrows]
    · rw [hrows]
      exact .sorted hordered
  next hshort =>
    split
    next =>
      refine (sortSmall_yields (hpart 32)).map fun rows hrows => ⟨?_, ?_⟩ <;> dsimp only
      · rw [hrows.perm.length_eq, List.length_take]
        omega
      · rw [hrows.perm.length_eq, take_length_take]
        exact .sorted hrows
    next heager =>
      refine .given ⟨?_, ?_⟩ <;> dsimp only
      · rw [List.length_take]
        omega
      · rw [take_length_take]
        exact .unsorted (hpart good) (hfinish.resolve_left heager)

/-- Runs stand for parts that make up the list. -/
def CutInto (less : α → α → Bool) (all : List α) (finish : List α → Option (List α))
    (xs : List α) (runs : List (Run α)) : Prop :=
  ∃ parts, List.Forall₂ (Run.StandsFor less all finish) runs parts ∧ parts.flatten = xs

theorem CutInto.nil : CutInto less all finish [] [] :=
  ⟨[], .nil, rfl⟩

theorem CutInto.cons {run : Run α} {runs : List (Run α)} (hrun : run.StandsFor less all finish xs)
    (hruns : CutInto less all finish ys runs) :
    CutInto less all finish (xs ++ ys) (run :: runs) :=
  let ⟨parts, hparts, hflatten⟩ := hruns
  ⟨xs :: parts, .cons hrun hparts, by rw [List.flatten_cons, hflatten]⟩

/-- **All runs** stand for the whole list. -/
theorem runs_yields {eager : Bool} (hfinish : eager = true ∨ Finishes less all finish)
    (hxs : xs ⊆ all) (good : Nat) :
    Yields less all (CutInto less all finish xs) (runs less eager good xs) := by
  induction xs using runs.induct with
  | case1 =>
      rw [runs]
      exact .given .nil
  | case2 x xs ih =>
      rw [runs]
      refine (firstRun_yields hfinish hxs (by simp) good).bind fun run ⟨hpos, hrun⟩ => ?_
      have hdrop : (x :: xs).drop run.rows.length = xs.drop (run.rows.length - 1) := by
        conv_lhs => rw [← Nat.sub_add_cancel hpos, List.drop_succ_cons]
      have hrest := ih run
      rw [← hdrop] at hrest ⊢
      have hsubset : (x :: xs).drop run.rows.length ⊆ all :=
        List.Subset.trans (List.drop_subset _ _) hxs
      refine (hrest hsubset).bind fun others hothers => .given ?_
      have hcut := CutInto.cons hrun hothers
      rwa [List.take_append_drop] at hcut

/-! ### Joining runs -/

/-- The runs that wait, the last one first, and the current run stand for a list from its
beginning. -/
inductive Stacked (less : α → α → Bool) (all : List α) (finish : List α → Option (List α)) :
    List (Run α × Nat) → Run α → List α → Prop where
  | bottom {run : Run α} {part : List α} (hrun : run.StandsFor less all finish part) :
      Stacked less all finish [] run part
  | push {stack : List (Run α × Nat)} {before run : Run α} {level : Nat} {front part : List α}
      (hbefore : Stacked less all finish stack before front)
      (hrun : run.StandsFor less all finish part) :
      Stacked less all finish ((before, level) :: stack) run (front ++ part)

section Join

variable {stack : List (Run α × Nat)} {run before : Run α} {space : Nat}

/-- Joining the current run with the one before it changes nothing below them. -/
theorem Stacked.join (hbefore : Stacked less all finish stack before xs)
    (hrun : run.StandsFor less all finish ys) :
    Yields less all (Stacked less all finish stack · (xs ++ ys))
      (before.join less finish space run) := by
  cases hbefore with
  | bottom hbefore => exact (hbefore.join_yields hrun space).imp fun _ => .bottom
  | @push _ _ _ _ front part hfront hbefore =>
      rw [List.append_assoc]
      exact (hbefore.join_yields hrun space).imp fun _ => hfront.push

theorem collapse_yields (depth : Nat) (h : Stacked less all finish stack run xs) :
    Yields less all
      (fun result => Stacked less all finish result.1 result.2 xs ∧ (depth = 0 → result.1 = []))
      (collapse less finish space depth stack run) := by
  induction stack generalizing run xs with
  | nil => exact .given ⟨h, fun _ => rfl⟩
  | cons entry stack ih =>
      obtain ⟨before, level⟩ := entry
      cases h with
      | push hbefore hrun =>
          rw [collapse]
          split
          next => exact (hbefore.join hrun).bind fun joined hjoined => ih hjoined
          next hdepth => exact .given ⟨hbefore.push hrun, fun hzero => by omega⟩

/-- **However the joins are scheduled**, the last run stands for the whole list. -/
theorem joinRuns_yields {others : List (Run α)} (h : Stacked less all finish stack run xs)
    (hothers : CutInto less all finish ys others) (length middle : Nat) :
    Yields less all (Run.StandsFor less all finish · (xs ++ ys))
      (joinRuns less finish space length middle stack run others) := by
  obtain ⟨parts, hparts, rfl⟩ := hothers
  induction hparts generalizing stack run xs middle with
  | nil =>
      rw [joinRuns, List.flatten_nil, List.append_nil]
      refine (collapse_yields 0 h).map fun result ⟨hstacked, hempty⟩ => ?_
      rw [hempty rfl] at hstacked
      cases hstacked with
      | bottom hrun => exact hrun
  | @cons next part others parts hnext _ ih =>
      rw [joinRuns]
      rw [List.flatten_cons, ← List.append_assoc]
      exact (collapse_yields _ h).bind fun result ⟨hstacked, _⟩ => ih (hstacked.push hnext) _

/-- **Sorting by runs** arranges the list if the comparison is consistent. -/
theorem sortRuns_yields {eager : Bool} (hfinish : eager = true ∨ Finishes less all finish)
    (hxs : xs ⊆ all) : Yields less all (Rearranges less all xs) (sortRuns less finish eager xs) := by
  rw [sortRuns]
  refine (runs_yields hfinish hxs _).bind fun found hfound => ?_
  obtain ⟨parts, hparts, rfl⟩ := hfound
  cases hparts with
  | nil => exact .given ⟨hxs, .refl [], fun rank _ => .self .nil⟩
  | @cons run part others parts hrun hothers =>
      refine (joinRuns_yields (.bottom hrun) ⟨parts, hothers, rfl⟩ _ _).bind fun whole hwhole => ?_
      exact hwhole.settle_yields

end Join

end RecordQuery.Sorting
