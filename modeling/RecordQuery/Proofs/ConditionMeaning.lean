import RecordQuery.Filter.Document
import RecordQuery.Proofs.Boundary
import RecordQuery.Proofs.FilterMeaning

/-!
# The meaning of conditions on scalars

A condition has a meaning of its own, read off the JSON and the value without a filter in between,
and the filter that it compiles to has the same meaning.
-/

namespace RecordQuery

/-- Joins what the parts mean; nothing to join holds. -/
def Combinator.joins : Combinator → List Bool → Bool
  | .and, parts => parts.all id
  | .or, parts => parts.isEmpty || parts.any id

open RecordQuery.Filter (Target)

namespace Meaning

/-- The value stands to the operand as the operator says. -/
def comparison (target : Target) (op : Op) (ignoreCase : Bool) (operand : Json) (value : Value) :
    Bool :=
  match target.operand op operand with
  | .ok operand => Clause.holds ⟨target.field, op, operand, ignoreCase⟩ value
  | .error _ => false

def operator (target : Target) (operator : Operator) (operand : Json) (value : Value) : Bool :=
  match operator with
  | .between => match operand with
    | .array [low, high] =>
      comparison target .gte false low value && comparison target .lte false high value
    | _ => false
  | .compare op ignoreCase negated =>
    let positive := comparison target op (ignoreCase && target.kind == .text) operand value
    if negated then !positive else positive

mutual

/-- A raw scalar stands for equality and a raw array for membership. -/
def condition (target : Target) : Json → Value → Bool
  | .object members, value => conditionMembers target members value
  | .array items, value => comparison target .isIn false (.array items) value
  | scalar, value => comparison target .eq false scalar value

def conditionMembers (target : Target) : List (String × Json) → Value → Bool
  | [], _ => true
  | (token, operand) :: members, value =>
    (match Combinator.ofKey? token with
      | some combinator => match operand with
        | .array items => combinator.joins (conditions target items value)
        | _ => false
      | none => match Operator.ofToken? token with
        | some op => operator target op operand value
        | none => false) && conditionMembers target members value

def conditions (target : Target) : List Json → Value → List Bool
  | [], _ => []
  | item :: items, value => condition target item value :: conditions target items value

end

end Meaning

/-! ### Compiled conditions -/

namespace Filter

theorem holds_join (subject : Subject) (combinator : Combinator) (filters : List Filter) :
    (combinator.join filters).holds subject =
      combinator.joins (filters.map (holds subject)) := by
  cases filters with
  | nil => cases combinator <;> rfl
  | cons f fs =>
      cases combinator with
      | and =>
          change (all (f :: fs)).holds subject = _
          rw [holds_all, Combinator.joins, List.all_map]
          rfl
      | or =>
          change (any (f :: fs)).holds subject = _
          rw [holds_any, Combinator.joins, List.any_map, List.map_cons, List.isEmpty_cons,
            Bool.false_or]
          rfl

namespace Target

variable {target : Target}

theorem holds_clause {op : Op} {operand : Operand} {json : Json}
    (h : target.operand op json = .ok operand) (ignoreCase : Bool) (subject : Subject) :
    (target.clause op operand ignoreCase).holds subject =
      Meaning.comparison target op ignoreCase json (subject.read target.field) := by
  rw [Meaning.comparison, h]
  rfl

theorem holds_compileOperator {operator : Operator} {json : Json} {f : Filter}
    (h : target.compileOperator operator json = .ok f) (subject : Subject) :
    f.holds subject = Meaning.operator target operator json (subject.read target.field) := by
  rw [compileOperator.eq_def] at h
  cases operator with
  | between =>
      dsimp only at h
      split at h
      case isFalse => cases h
      split at h
      next low high =>
        obtain ⟨lowest, hlow, h⟩ := bind_eq_ok.mp h
        obtain ⟨highest, hhigh, h⟩ := bind_eq_ok.mp h
        cases h
        have hlow : target.operand .gte low = .ok lowest := hlow
        have hhigh : target.operand .lte high = .ok highest := hhigh
        simp [holds_all, holds_clause hlow, holds_clause hhigh, Meaning.operator]
      next => cases h
  | compare op ignoreCase negated =>
      dsimp only at h
      split at h
      case isFalse => cases h
      obtain ⟨operand, hoperand, h⟩ := bind_eq_ok.mp h
      cases h
      rw [Meaning.operator]
      cases negated with
      | false => exact holds_clause hoperand _ subject
      | true => rw [if_pos rfl, Filter.holds, holds_clause hoperand]; rfl

mutual

theorem holds_compile (json : Json) {f : Filter} (h : target.compile json = .ok f)
    (subject : Subject) :
    f.holds subject = Meaning.condition target json (subject.read target.field) := by
  match json with
  | .object members =>
      rw [compile] at h
      obtain ⟨filters, hfilters, rfl⟩ := map_eq_ok.mp h
      rw [holds_all, Meaning.condition]
      exact all_compileMembers members hfilters subject
  | .array items =>
      rw [compile] at h
      obtain ⟨operands, hoperands, h⟩ := bind_eq_ok.mp h
      cases h
      have hset : target.operand .isIn (.array items) = .ok (.set operands) :=
        map_eq_ok.mpr ⟨operands, hoperands, rfl⟩
      exact holds_clause hset false subject
  | .null | .bool _ | .number _ | .text _ =>
      rw [compile] at h
      · obtain ⟨operand, hoperand, h⟩ := bind_eq_ok.mp h
        cases h
        have hoperand : target.operand .eq _ = .ok operand := hoperand
        exact holds_clause hoperand false subject
      · simp
      · simp

theorem all_compileMembers (members : List (String × Json)) {filters : List Filter}
    (h : target.compileMembers members = .ok filters) (subject : Subject) :
    filters.all (holds subject) =
      Meaning.conditionMembers target members (subject.read target.field) := by
  match members with
  | [] =>
      cases h
      rfl
  | (token, operand) :: members =>
      rw [compileMembers] at h
      rw [Meaning.conditionMembers]
      cases hkey : Combinator.ofKey? token with
      | some combinator =>
          rw [hkey] at h
          match operand with
          | .array items =>
              obtain ⟨first, hfirst, h⟩ := bind_eq_ok.mp h
              obtain ⟨filters, hfilters, rfl⟩ := map_eq_ok.mp hfirst
              obtain ⟨rest, hrest, h⟩ := bind_eq_ok.mp h
              cases h
              rw [List.all_cons, holds_join, map_compileAll items hfilters subject,
                all_compileMembers members hrest subject]
          | .null | .bool _ | .number _ | .text _ | .object _ => cases h
      | none =>
          rw [hkey] at h
          cases htoken : Operator.ofToken? token with
          | some operator =>
              rw [htoken] at h
              obtain ⟨first, hfirst, h⟩ := bind_eq_ok.mp h
              obtain ⟨rest, hrest, h⟩ := bind_eq_ok.mp h
              cases h
              rw [List.all_cons, holds_compileOperator hfirst subject,
                all_compileMembers members hrest subject]
          | none =>
              rw [htoken] at h
              cases h

theorem map_compileAll (items : List Json) {filters : List Filter}
    (h : target.compileAll items = .ok filters) (subject : Subject) :
    filters.map (holds subject) =
      Meaning.conditions target items (subject.read target.field) := by
  match items with
  | [] =>
      cases h
      rfl
  | item :: items =>
      rw [compileAll] at h
      obtain ⟨first, hfirst, h⟩ := bind_eq_ok.mp h
      obtain ⟨rest, hrest, h⟩ := bind_eq_ok.mp h
      cases h
      rw [List.map_cons, holds_compile item hfirst subject, map_compileAll items hrest subject,
        Meaning.conditions]

end

end Target

end Filter

end RecordQuery
