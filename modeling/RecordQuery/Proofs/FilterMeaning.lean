import Mathlib
import RecordQuery.Filter.Basic

/-!
# The meaning of joined filters

Flattening does not change what a joined filter means: `Filter.all` is the conjunction of its parts
and `Filter.any` their disjunction.
-/

namespace RecordQuery.Filter

section

variable (subject : Subject)

theorem all_conjuncts (f : Filter) : (conjuncts f).all (holds subject) = f.holds subject := by
  cases f with
  | const b => cases b <;> simp [conjuncts, holds]
  | conj children => rw [conjuncts, holds, holdsAll_eq]
  | _ => simp [conjuncts]

theorem any_disjuncts (f : Filter) : (disjuncts f).any (holds subject) = f.holds subject := by
  cases f with
  | disj children => rw [disjuncts, holds, holdsAny_eq]
  | _ => simp [disjuncts]

theorem holds_all (filters : List Filter) :
    (all filters).holds subject = filters.all (holds subject) := by
  have hparts : (filters.flatMap conjuncts).all (holds subject) = filters.all (holds subject) := by
    rw [List.all_flatMap]
    simp only [all_conjuncts]
  rw [← hparts, all]
  split
  next hnone => simp [hnone, holds]
  next f hone => simp [hone]
  next => rw [holds, holdsAll_eq]

theorem holds_any (filters : List Filter) :
    (any filters).holds subject = filters.any (holds subject) := by
  have hparts : (filters.flatMap disjuncts).any (holds subject) = filters.any (holds subject) := by
    rw [List.any_flatMap]
    simp only [any_disjuncts]
  rw [← hparts, any]
  split
  next f hone => simp [hone]
  next => rw [holds, holdsAny_eq]

theorem holds_and (a b : Filter) :
    (a.and b).holds subject = (a.holds subject && b.holds subject) := by
  simp [Filter.and, holds_all]

theorem holds_or (a b : Filter) :
    (a.or b).holds subject = (a.holds subject || b.holds subject) := by
  simp [Filter.or, holds_any]

end

/-! ### Subjects that read alike -/

variable {s t : Subject}

mutual

theorem holds_congr (h : ∀ field, s.read field = t.read field) (f : Filter) :
    f.holds s = f.holds t := by
  match f with
  | .const _ => rfl
  | .clause _ => rw [holds, holds, h]
  | .conj children => rw [holds, holds, holdsAll_congr h children]
  | .disj children => rw [holds, holds, holdsAny_congr h children]
  | .neg inner => rw [holds, holds, holds_congr h inner]
  | .scope _ _ => rw [holds, holds, h]
  | .some _ _ => rw [holds, holds, h]

theorem holdsAll_congr (h : ∀ field, s.read field = t.read field) (filters : List Filter) :
    holdsAll s filters = holdsAll t filters := by
  match filters with
  | [] => rfl
  | f :: fs => rw [holdsAll, holdsAll, holds_congr h f, holdsAll_congr h fs]

theorem holdsAny_congr (h : ∀ field, s.read field = t.read field) (filters : List Filter) :
    holdsAny s filters = holdsAny t filters := by
  match filters with
  | [] => rfl
  | f :: fs => rw [holdsAny, holdsAny, holds_congr h f, holdsAny_congr h fs]

end

/-- An absent element reads like a record without fields. -/
theorem holds_absent (f : Filter) : f.holds (.element .absent) = f.holds (.record []) := by
  refine holds_congr ?_ f
  rintro (_ | path)
  · rfl
  · change Value.absent = Record.readChain [] (Text.split '.' path)
    match Text.split '.' path with
    | [] => rfl
    | [_] => rfl
    | _ :: _ :: _ => rfl

end RecordQuery.Filter
