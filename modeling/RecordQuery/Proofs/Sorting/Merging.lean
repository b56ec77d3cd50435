import RecordQuery.Proofs.Sorting.Ranks
import RecordQuery.Sorting.Runs

/-!
# Merging

Merging two arranged lists arranges all their elements, from whichever end it begins. Merging from
both ends at once chooses some of the elements at each end. If the comparison contradicts itself
they may overlap, and that is noticed; otherwise the two ends come from one merged list.
-/

namespace RecordQuery.Sorting

variable {α β γ : Type} {less : α → α → Bool} {rank : α → Int} {all xs ys left right : List α}

/-! ### Steps of a sort -/

/-- The second list has the elements of the first one, which is a part of all that are sorted. It is
arranged if the comparison goes by ranks. -/
structure Rearranges (less : α → α → Bool) (all xs ys : List α) : Prop where
  subset : xs ⊆ all
  perm : ys.Perm xs
  arranges : ∀ rank, ComparesBy less rank all → Arranges rank xs ys

/-- What a step gives has a property, and the step gives something if the comparison is
consistent. -/
structure Yields (less : α → α → Bool) (all : List α) (P : β → Prop) (o : Option β) : Prop where
  property : ∀ y ∈ o, P y
  isSome : Consistent less all → o.isSome

namespace Yields

variable {P : β → Prop} {Q : γ → Prop} {o : Option β}

theorem given {y : β} (h : P y) : Yields less all P (some y) where
  property := by simpa
  isSome _ := rfl

theorem bind (h : Yields less all P o) {f : β → Option γ}
    (hf : ∀ y, P y → Yields less all Q (f y)) : Yields less all Q (o.bind f) := by
  cases o with
  | none => exact ⟨by simp, fun hless => absurd (h.isSome hless) (by simp)⟩
  | some y => exact hf y (h.property y rfl)

theorem imp (h : Yields less all P o) {Q : β → Prop} (hPQ : ∀ y, P y → Q y) :
    Yields less all Q o :=
  ⟨fun y hy => hPQ y (h.property y hy), h.isSome⟩

theorem map (h : Yields less all P o) {f : β → γ} (hf : ∀ y, P y → Q (f y)) :
    Yields less all Q (o.map f) := by
  rw [Option.map_eq_bind]
  exact h.bind fun y hy => given (hf y hy)

end Yields

/-! ### From one end -/

theorem mergeUp_perm (less : α → α → Bool) (left right : List α) :
    (mergeUp less left right).Perm (left ++ right) :=
  List.merge_perm_append _

theorem mergeDown_eq (less : α → α → Bool) (left right : List α) :
    mergeDown less left right =
      (mergeUp (fun b a => less a b) right.reverse left.reverse).reverse := rfl

theorem mergeDown_perm (less : α → α → Bool) (left right : List α) :
    (mergeDown less left right).Perm (left ++ right) := by
  rw [mergeDown_eq]
  refine (List.reverse_perm _).trans ((mergeUp_perm _ _ _).trans ?_)
  exact ((List.reverse_perm right).append (List.reverse_perm left)).trans List.perm_append_comm

theorem mergeUp_arranges (h : ComparesBy less rank (left ++ right))
    (hleft : left.Pairwise fun a b => rank a ≤ rank b)
    (hright : right.Pairwise fun a b => rank a ≤ rank b) :
    Arranges rank (left ++ right) (mergeUp less left right) := by
  induction left generalizing right with
  | nil => simpa [mergeUp] using Arranges.self hright
  | cons x left ihleft =>
      induction right with
      | nil => simpa [mergeUp] using Arranges.self hleft
      | cons y right ihright =>
          rw [mergeUp, List.cons_merge_cons, h y (by simp) x (by simp)]
          have hx := (List.pairwise_cons.mp hleft).1
          have hy := (List.pairwise_cons.mp hright).1
          split
          next hle =>
            have hle : rank x ≤ rank y := by simpa using hle
            refine (ihleft (h.subset (by simp)) hleft.of_cons hright).cons fun z hz => ?_
            rcases List.mem_append.mp hz with hz | hz
            · exact hx z hz
            · rcases List.mem_cons.mp hz with rfl | hz
              · exact hle
              · exact hle.trans (hy z hz)
          next hlt =>
            have hlt : rank y < rank x := by simpa using hlt
            have hpass : ∀ z ∈ x :: left, rank y < rank z := by
              intro z hz
              rcases List.mem_cons.mp hz with rfl | hz
              · exact hlt
              · exact hlt.trans_le (hx z hz)
            have hrest := h.subset ((List.sublist_cons_self y right).append_left (x :: left)).subset
            refine ((ihright hrest hright.of_cons).cons fun z hz => ?_).of_levels
              (.middle fun z hz => (hpass z hz).ne')
            rcases List.mem_append.mp hz with hz | hz
            · exact (hpass z hz).le
            · exact hy z hz

/-- Seen from the end the ranks turn over and the right list comes first. -/
theorem mergeDown_arranges (h : ComparesBy less rank (left ++ right))
    (hleft : left.Pairwise fun a b => rank a ≤ rank b)
    (hright : right.Pairwise fun a b => rank a ≤ rank b) :
    Arranges rank (left ++ right) (mergeDown less left right) := by
  have hcompares : ComparesBy (fun b a => less a b) (fun x => -rank x)
      (right.reverse ++ left.reverse) := by
    intro b hb a ha
    simp only [neg_lt_neg_iff]
    exact h a (by simpa [or_comm] using ha) b (by simpa [or_comm] using hb)
  have hturned {zs : List α} (hzs : zs.Pairwise fun a b => rank a ≤ rank b) :
      zs.reverse.Pairwise fun a b => -rank a ≤ -rank b := by
    simpa [List.pairwise_reverse] using hzs
  have hmerged := mergeUp_arranges hcompares (hturned hright) (hturned hleft)
  rw [mergeDown_eq]
  constructor
  · simpa [List.pairwise_reverse] using hmerged.ascending
  · simpa using hmerged.levels.neg.reverse

theorem mergeRuns_arranges (h : ComparesBy less rank (left ++ right))
    (hleft : left.Pairwise fun a b => rank a ≤ rank b)
    (hright : right.Pairwise fun a b => rank a ≤ rank b) :
    Arranges rank (left ++ right) (mergeRuns less left right) := by
  rw [mergeRuns]
  split
  · exact mergeUp_arranges h hleft hright
  · exact mergeDown_arranges h hleft hright

theorem Rearranges.subset_all (h : Rearranges less all xs ys) : ys ⊆ all :=
  fun _ hy => h.subset (h.perm.mem_iff.mp hy)

/-- Arranging both parts and merging them arranges the whole. -/
theorem Rearranges.merge (hleft : Rearranges less all xs left)
    (hright : Rearranges less all ys right) {merged : List α} (hperm : merged.Perm (left ++ right))
    (hmerged : ∀ rank, ComparesBy less rank (left ++ right) →
      left.Pairwise (fun a b => rank a ≤ rank b) → right.Pairwise (fun a b => rank a ≤ rank b) →
      Arranges rank (left ++ right) merged) :
    Rearranges less all (xs ++ ys) merged where
  subset := List.append_subset.mpr ⟨hleft.subset, hright.subset⟩
  perm := hperm.trans (hleft.perm.append hright.perm)
  arranges rank hrank := by
    have harrangesLeft := hleft.arranges rank hrank
    have harrangesRight := hright.arranges rank hrank
    have hsubset : left ++ right ⊆ all :=
      List.append_subset.mpr ⟨hleft.subset_all, hright.subset_all⟩
    exact (hmerged rank (hrank.subset hsubset) harrangesLeft.ascending
      harrangesRight.ascending).of_levels (harrangesLeft.levels.append harrangesRight.levels)

/-! ### From both ends -/

theorem filter_merge {le : α → α → Bool} {p : α → Bool} (hleft : ∀ x ∈ left, p x = true)
    (hright : ∀ y ∈ right, p y = false) :
    (left.merge right le).filter p = left ∧
      (left.merge right le).filter (fun x => !p x) = right := by
  induction left generalizing right with
  | nil => simpa using hright
  | cons x left ihleft =>
      induction right with
      | nil => simpa using hleft
      | cons y right ihright =>
          rw [List.cons_merge_cons]
          split
          · simpa [hleft x] using ihleft (fun z hz => hleft z (by simp [hz])) hright
          · simpa [hright y] using ihright fun z hz => hright z (by simp [hz])

theorem take_extract_drop (xs : List α) {i j : Nat} (h : i ≤ j) :
    xs.take i ++ (xs.extract i j ++ xs.drop j) = xs := by
  rw [List.extract_eq_take_drop, show xs.drop j = (xs.drop i).drop (j - i) by
    rw [List.drop_drop, Nat.add_sub_cancel' h], List.take_append_drop, List.take_append_drop]

/-! A list of tagged elements, cut in three. -/

section Tagged

variable {merged : List (Bool × α)} {mine : Bool × α → Bool} {tag : Bool}

theorem map_filter_take (h : merged.filter mine = xs.map (tag, ·)) (n : Nat) :
    ((merged.take n).filter mine).map Prod.snd = xs.take ((merged.take n).countP mine) := by
  rw [List.prefix_iff_eq_take.mp ((List.take_prefix n merged).filter mine), h,
    ← List.countP_eq_length_filter, List.map_take, List.map_map]
  exact congrArg _ (List.map_id xs)

theorem map_filter_drop (h : merged.filter mine = xs.map (tag, ·)) (n : Nat) :
    ((merged.drop n).filter mine).map Prod.snd =
      xs.drop (xs.length - (merged.drop n).countP mine) := by
  rw [List.suffix_iff_eq_drop.mp ((List.drop_suffix n merged).filter mine), h,
    ← List.countP_eq_length_filter, List.map_drop, List.map_map, List.length_map]
  exact congrArg _ (List.map_id xs)

theorem extract_middle {front middle back : List (Bool × α)}
    (h : (front ++ (middle ++ back)).filter mine = xs.map (tag, ·)) :
    front.countP mine ≤ xs.length - back.countP mine ∧
      xs.extract (front.countP mine) (xs.length - back.countP mine) =
        (middle.filter mine).map Prod.snd := by
  have hxs : xs = (front.filter mine).map Prod.snd ++
      ((middle.filter mine).map Prod.snd ++ (back.filter mine).map Prod.snd) := by
    have hmap := congrArg (List.map Prod.snd) h
    rw [List.map_map] at hmap
    simpa using ((List.map_id xs).symm.trans hmap.symm : xs = _)
  have hlength := congrArg List.length hxs
  simp only [List.length_append, List.length_map, ← List.countP_eq_length_filter] at hlength
  refine ⟨by omega, ?_⟩
  rw [List.extract_eq_take_drop]
  conv_lhs => rw [hxs]
  rw [List.drop_left' (by simp [List.countP_eq_length_filter]),
    List.take_left' (by simp [← List.countP_eq_length_filter]; omega)]

end Tagged

/-- The tags of merged elements tell from which list they come. -/
def TellsApart (merged : List (Bool × α)) (left right : List α) : Prop :=
  merged.filter Prod.fst = left.map (true, ·) ∧
    merged.filter (fun x => !x.1) = right.map (false, ·)

theorem mergeUp_tellsApart (compared : Bool × α → Bool × α → Bool) (left right : List α) :
    TellsApart (mergeUp compared (left.map (true, ·)) (right.map (false, ·))) left right :=
  filter_merge (by simp) (by simp)

theorem mergeDown_tellsApart (compared : Bool × α → Bool × α → Bool) (left right : List α) :
    TellsApart (mergeDown compared (left.map (true, ·)) (right.map (false, ·))) left right := by
  have hfilter : _ ∧ _ := @filter_merge _ (right.map (false, ·)).reverse (left.map (true, ·)).reverse
    (fun b a => !compared b a) (fun x => !x.1) (by simp) (by simp)
  simp only [Bool.not_not] at hfilter
  constructor
  · rw [mergeDown, List.filter_reverse, hfilter.2, List.reverse_reverse]
  · rw [mergeDown, List.filter_reverse, hfilter.1, List.reverse_reverse]

/-- If the two ends do not overlap they have all elements, with those left over in between. -/
theorem TellsApart.perm {up down : List (Bool × α)} (hup : TellsApart up left right)
    (hdown : TellsApart down left right) {i j : Nat}
    (hleft : (up.take i).countP Prod.fst ≤ left.length - (down.drop j).countP Prod.fst)
    (hright : (up.take i).countP (fun x => !x.1) ≤
      right.length - (down.drop j).countP fun x => !x.1) :
    ((up.take i).map Prod.snd ++
      (left.extract ((up.take i).countP Prod.fst)
          (left.length - (down.drop j).countP Prod.fst) ++
        right.extract ((up.take i).countP fun x => !x.1)
          (right.length - (down.drop j).countP fun x => !x.1)) ++
      (down.drop j).map Prod.snd).Perm (left ++ right) := by
  have hfront : ((up.take i).map Prod.snd).Perm (left.take ((up.take i).countP Prod.fst) ++
      right.take ((up.take i).countP fun x => !x.1)) := by
    rw [← map_filter_take hup.1, ← map_filter_take hup.2, ← List.map_append]
    exact (List.filter_append_perm _ _).symm.map _
  have hback : ((down.drop j).map Prod.snd).Perm
      (left.drop (left.length - (down.drop j).countP Prod.fst) ++
        right.drop (right.length - (down.drop j).countP fun x => !x.1)) := by
    rw [← map_filter_drop hdown.1, ← map_filter_drop hdown.2, ← List.map_append]
    exact (List.filter_append_perm _ _).symm.map _
  refine ((hfront.append_right _).append hback).trans ?_
  conv_rhs => rw [← take_extract_drop left hleft, ← take_extract_drop right hright]
  simp only [← Multiset.coe_eq_coe, ← Multiset.coe_add]
  abel

/-- If the two ends come from one merged list, at most one element is left over, and the outcome is
that list. -/
theorem TellsApart.meets {merged : List (Bool × α)} (h : TellsApart merged left right)
    (hshort : left.length ≤ right.length) (hlong : right.length ≤ left.length + 1) :
    (((merged.take left.length).countP Prod.fst ≤
          left.length - (merged.drop right.length).countP Prod.fst) ∧
        (merged.take left.length).countP (fun x => !x.1) ≤
          right.length - (merged.drop right.length).countP fun x => !x.1) ∧
      (merged.take left.length).map Prod.snd ++
        (left.extract ((merged.take left.length).countP Prod.fst)
            (left.length - (merged.drop right.length).countP Prod.fst) ++
          right.extract ((merged.take left.length).countP fun x => !x.1)
            (right.length - (merged.drop right.length).countP fun x => !x.1)) ++
        (merged.drop right.length).map Prod.snd = merged.map Prod.snd := by
  have hcut := take_extract_drop merged hshort
  generalize merged.take left.length = front at hcut ⊢
  generalize merged.drop right.length = back at hcut ⊢
  have hmiddle : (merged.extract left.length right.length).length ≤ 1 := by
    rw [List.extract_eq_take_drop, List.length_take]
    omega
  generalize merged.extract left.length right.length = middle at hcut hmiddle
  subst hcut
  obtain ⟨hleft, hextractLeft⟩ := extract_middle h.1
  obtain ⟨hright, hextractRight⟩ := extract_middle h.2
  refine ⟨⟨hleft, hright⟩, ?_⟩
  have hsplit : middle.filter Prod.fst ++ middle.filter (fun x => !x.1) = middle := by
    match middle, hmiddle with
    | [], _ => rfl
    | [x], _ => cases hx : x.1 <;> simp [hx]
  rw [hextractLeft, hextractRight, ← List.map_append, hsplit]
  simp

theorem mergeInward_perm {merged : List α} (h : merged ∈ mergeInward less left right) :
    merged.Perm (left ++ right) := by
  rw [mergeInward, Option.mem_def] at h
  split at h
  next hmeet =>
    obtain rfl := Option.some.inj h
    exact (mergeUp_tellsApart _ left right).perm (mergeDown_tellsApart _ left right) hmeet.1 hmeet.2
  next => cases h

theorem mergeInward_arranges (h : ComparesBy less rank (left ++ right))
    (hleft : left.Pairwise fun a b => rank a ≤ rank b)
    (hright : right.Pairwise fun a b => rank a ≤ rank b)
    (hshort : left.length ≤ right.length) (hlong : right.length ≤ left.length + 1) :
    ∃ merged, mergeInward less left right = some merged ∧ Arranges rank (left ++ right) merged := by
  set compared : Bool × α → Bool × α → Bool := fun a b => less a.2 b.2 with hcompared
  set lefts := left.map ((true, ·) : α → Bool × α) with hlefts
  set rights := right.map ((false, ·) : α → Bool × α) with hrights
  have hsnd : (lefts ++ rights).map Prod.snd = left ++ right := by simp [lefts, rights]
  have hcompares : ComparesBy compared (fun x => rank x.2) (lefts ++ rights) := by
    intro a ha b hb
    exact h a.2 (hsnd ▸ List.mem_map_of_mem ha) b.2 (hsnd ▸ List.mem_map_of_mem hb)
  have hascending (tag : Bool) {xs : List α} (hxs : xs.Pairwise fun a b => rank a ≤ rank b) :
      (xs.map ((tag, ·) : α → Bool × α)).Pairwise fun a b => rank a.2 ≤ rank b.2 :=
    List.pairwise_map.mpr hxs
  have hup := mergeUp_arranges hcompares (hascending true hleft) (hascending false hright)
  have hdown := mergeDown_arranges hcompares (hascending true hleft) (hascending false hright)
  obtain ⟨hmeet, hwhole⟩ := (mergeUp_tellsApart compared left right).meets hshort hlong
  refine ⟨(mergeUp compared lefts rights).map Prod.snd, ?_, ?_⟩
  · rw [mergeInward, ← hcompared, ← hlefts, ← hrights, ← hup.unique hdown, if_pos hmeet, hwhole]
  · rw [← hsnd]
    exact hup.map

/-- **Merging from both ends** keeps all elements, and arranged parts are merged into an arranged
whole. -/
theorem mergeInward_yields (hleft : Rearranges less all xs left)
    (hright : Rearranges less all ys right) (hshort : left.length ≤ right.length)
    (hlong : right.length ≤ left.length + 1) :
    Yields less all (Rearranges less all (xs ++ ys)) (mergeInward less left right) where
  property merged hmerged := by
    refine hleft.merge hright (mergeInward_perm hmerged) fun rank hrank hleft hright => ?_
    obtain ⟨_, heq, harranges⟩ := mergeInward_arranges hrank hleft hright hshort hlong
    rw [hmerged, Option.some.injEq] at heq
    rwa [heq]
  isSome := by
    rintro ⟨rank, hrank⟩
    obtain ⟨merged, heq, -⟩ := mergeInward_arranges
      (hrank.subset (List.append_subset.mpr ⟨hleft.subset_all, hright.subset_all⟩))
      (hleft.arranges rank hrank).ascending (hright.arranges rank hrank).ascending hshort hlong
    rw [heq]
    rfl

end RecordQuery.Sorting
