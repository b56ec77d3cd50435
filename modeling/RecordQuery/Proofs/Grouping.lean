import RecordQuery.Proofs.CacheKey
import RecordQuery.Proofs.Spellings

/-!
# Grouping of joined specifications

Joined filters are flat, so a conjunction of conjunctions is the conjunction of all their parts, and
how the filters were grouped does not show. This needs the parts to be flat themselves, which those
of filters in normal form are. Together with the includes, the sorts and the flags, of which each
is joined associatively, three specifications have one conjunction and one disjunction.
-/

namespace RecordQuery

namespace Filter

/-! ### Splicing -/

section Splice

variable {filters others : List Filter}

theorem all_congr (h : filters.flatMap conjuncts = others.flatMap conjuncts) :
    all filters = all others := by
  rw [all, all, h]

theorem any_congr (h : filters.flatMap disjuncts = others.flatMap disjuncts) :
    any filters = any others := by
  rw [any, any, h]

/-- A conjunction is taken apart into the parts that it was made of. -/
theorem conjuncts_all (hflat : ∀ part ∈ filters.flatMap conjuncts, part.conjuncts = [part]) :
    (all filters).conjuncts = filters.flatMap conjuncts := by
  rw [all]
  split
  next hnone => rw [hnone, conjuncts]
  next f hone => rw [hone, hflat f (by simp [hone])]
  next => rw [conjuncts]

theorem disjuncts_any (hflat : ∀ part ∈ filters.flatMap disjuncts, part.disjuncts = [part]) :
    (any filters).disjuncts = filters.flatMap disjuncts := by
  rw [any]
  split
  next f hone => rw [hone, hflat f (by simp [hone])]
  next => rw [disjuncts]

end Splice

section Normal

variable {names : String → Prop} {setting : Setting} {filters : List Filter} {f g h : Filter}

theorem conjuncts_all_of_normal (hfilters : ∀ f ∈ filters, f.Normal names setting) :
    (all filters).conjuncts = filters.flatMap conjuncts := by
  refine conjuncts_all fun part hpart => ?_
  obtain ⟨f, hf, hpart⟩ := List.mem_flatMap.mp hpart
  exact ((hfilters f hf).conjuncts part hpart).2

theorem disjuncts_any_of_normal (hfilters : ∀ f ∈ filters, f.Normal names setting) :
    (any filters).disjuncts = filters.flatMap disjuncts := by
  refine disjuncts_any fun part hpart => ?_
  obtain ⟨f, hf, hpart⟩ := List.mem_flatMap.mp hpart
  exact ((hfilters f hf).disjuncts part hpart).2

theorem Normal.conjuncts_and (hf : f.Normal names setting) (hg : g.Normal names setting) :
    (f.and g).conjuncts = f.conjuncts ++ g.conjuncts := by
  change (all [f, g]).conjuncts = _
  rw [conjuncts_all_of_normal (List.forall_mem_cons.mpr ⟨hf, List.forall_mem_singleton.mpr hg⟩)]
  simp

theorem Normal.disjuncts_or (hf : f.Normal names setting) (hg : g.Normal names setting) :
    (f.or g).disjuncts = f.disjuncts ++ g.disjuncts := by
  change (any [f, g]).disjuncts = _
  rw [disjuncts_any_of_normal (List.forall_mem_cons.mpr ⟨hf, List.forall_mem_singleton.mpr hg⟩)]
  simp

theorem Normal.and_assoc (hf : f.Normal names setting) (hg : g.Normal names setting)
    (hh : h.Normal names setting) : (f.and g).and h = f.and (g.and h) := by
  apply all_congr
  simp [hf.conjuncts_and hg, hg.conjuncts_and hh]

theorem Normal.or_assoc (hf : f.Normal names setting) (hg : g.Normal names setting)
    (hh : h.Normal names setting) : (f.or g).or h = f.or (g.or h) := by
  apply any_congr
  simp [hf.disjuncts_or hg, hg.disjuncts_or hh]

end Normal

end Filter

namespace Specification

/-! ### Everything but the criteria -/

theorem addInclude_of_mem {includes : List String} {path : String} (h : path ∈ includes) :
    addInclude includes path = includes := by
  rw [addInclude, if_pos (by simpa using h)]

theorem addInclude_of_notMem {includes : List String} {path : String} (h : path ∉ includes) :
    addInclude includes path = includes ++ [path] := by
  rw [addInclude, if_neg (by simpa using h)]

theorem mem_foldl_addInclude {includes paths : List String} {path : String} :
    path ∈ paths.foldl addInclude includes ↔ path ∈ includes ∨ path ∈ paths := by
  induction paths generalizing includes with
  | nil => simp
  | cons first paths ih =>
      rw [List.foldl_cons, ih]
      by_cases hfirst : first ∈ includes
      · rw [addInclude_of_mem hfirst]
        grind
      · rw [addInclude_of_notMem hfirst]
        grind

/-- A path that was added to the paths to add is added last, or it is there already. -/
theorem foldl_addInclude_addInclude (includes paths : List String) (path : String) :
    (addInclude paths path).foldl addInclude includes =
      addInclude (paths.foldl addInclude includes) path := by
  by_cases hpath : path ∈ paths
  · rw [addInclude_of_mem hpath, addInclude_of_mem (mem_foldl_addInclude.mpr (Or.inr hpath))]
  · rw [addInclude_of_notMem hpath, List.foldl_concat]

theorem foldl_addInclude_assoc (first second third : List String) :
    third.foldl addInclude (second.foldl addInclude first) =
      (third.foldl addInclude second).foldl addInclude first := by
  induction third generalizing second with
  | nil => rfl
  | cons path third ih =>
      rw [List.foldl_cons, List.foldl_cons, ← ih, foldl_addInclude_addInclude]

/-- The criteria aside, it does not matter which specifications are joined first. -/
theorem merge_assoc (a b c : Specification) (left right criteria : Option Filter) :
    merge (merge a b left) c criteria = merge a (merge b c right) criteria := by
  simp only [merge, foldl_addInclude_assoc, Option.or_assoc, Bool.or_assoc]

/-! ### Joins -/

section Joins

variable {names : String → Prop} {schema : Schema} {a b c : Specification}
  (ha : a.Canonical names schema) (hb : b.Canonical names schema) (hc : c.Canonical names schema)

include ha hb hc

theorem Canonical.and_assoc : (a.and b).and c = a.and (b.and c) := by
  have hassoc : ∀ f ∈ a.criteria, ∀ g ∈ b.criteria, ∀ h ∈ c.criteria,
      (f.and g).and h = f.and (g.and h) := fun f hf g hg h hh =>
    (ha.criteria f hf).and_assoc (hb.criteria g hg) (hc.criteria h hh)
  refine (merge_assoc a b c _ _ _).trans (congrArg (Specification.merge a _) ?_)
  -- an absent criterion leaves the others as they are
  cases hf : a.criteria <;> cases hg : b.criteria <;> cases hh : c.criteria <;>
    simp_all [Specification.and, Specification.merge]

theorem Canonical.or_assoc : (a.or b).or c = a.or (b.or c) := by
  have hassoc : ∀ f ∈ a.criteria, ∀ g ∈ b.criteria, ∀ h ∈ c.criteria,
      (f.or g).or h = f.or (g.or h) := fun f hf g hg h hh =>
    (ha.criteria f hf).or_assoc (hb.criteria g hg) (hc.criteria h hh)
  refine (merge_assoc a b c _ _ _).trans (congrArg (Specification.merge a _) ?_)
  -- an absent criterion absorbs the others
  cases hf : a.criteria <;> cases hg : b.criteria <;> cases hh : c.criteria <;>
    simp_all [Specification.or, Specification.merge]

end Joins

end Specification

/-- **The grouping of joined specifications does not show**: not in the criteria, the sort, the
includes or the flags, and so not in the cache key. -/
theorem Assembly.grouping {schema : Schema} {x y z : Assembly} (hx : x.Compiled schema)
    (hy : y.Compiled schema) (hz : z.Compiled schema) {a b c : Specification}
    (ha : x.specification schema = .ok a) (hb : y.specification schema = .ok b)
    (hc : z.specification schema = .ok c) :
    (a.and b).and c = a.and (b.and c) ∧ (a.or b).or c = a.or (b.or c) ∧
      ∀ extra,
        ((a.and b).and c).cacheKeyWith schema extra = (a.and (b.and c)).cacheKeyWith schema extra ∧
        ((a.or b).or c).cacheKeyWith schema extra = (a.or (b.or c)).cacheKeyWith schema extra := by
  have hnamed := Filter.named_true schema
  have hcanonical := x.canonical hnamed hx ha
  have hand := hcanonical.and_assoc (y.canonical hnamed hy hb) (z.canonical hnamed hz hc)
  have hor := hcanonical.or_assoc (y.canonical hnamed hy hb) (z.canonical hnamed hz hc)
  exact ⟨hand, hor, fun extra => ⟨by rw [hand], by rw [hor]⟩⟩

namespace Article

/-- The articles with either title, in the order of their scores. -/
def titled (title other : String) : Assembly :=
  .built [
    .filter (.object [("$or", .array [
      .object [("title", .text title)], .object [("title", .text other)]])]),
    .sort "score" none, .load "reviewers", .noTracking]

theorem grouping_ranked :
    ∃ a b c, (ranked four).specification schema = .ok a ∧
      (titled "Lean" "Coq").specification schema = .ok b ∧
      (beyond limit).specification schema = .ok c ∧
      (a.and b).and c = a.and (b.and c) ∧ (a.or b).or c = a.or (b.or c) := by
  have hranked : ((ranked four).specification schema).toBool = true := by decide +kernel
  have htitled : ((titled "Lean" "Coq").specification schema).toBool = true := by decide +kernel
  have hbeyond : ((beyond limit).specification schema).toBool = true := by decide +kernel
  obtain ⟨a, ha⟩ := toBool_eq_true.mp hranked
  obtain ⟨b, hb⟩ := toBool_eq_true.mp htitled
  obtain ⟨c, hc⟩ := toBool_eq_true.mp hbeyond
  have hgrouping := Assembly.grouping (x := ranked four) (y := titled "Lean" "Coq")
    (z := beyond limit) (by simp [ranked, Assembly.Compiled, Builder.Step.Compiled])
    (by simp [titled, Assembly.Compiled, Builder.Step.Compiled])
    (by simp [beyond, Assembly.Compiled, Builder.Step.Compiled]) ha hb hc
  exact ⟨a, b, c, ha, hb, hc, hgrouping.1, hgrouping.2.1⟩

end Article

end RecordQuery
