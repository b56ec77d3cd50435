import RecordQuery.Proofs.MemberFilter

/-!
# The grammar of conditions

Which conditions on a scalar compile, said without the filters that they compile to: a condition is
a value, an array of values or an object of operators with their operands, and `$and` and `$or` take
conditions again.
-/

namespace RecordQuery

namespace Grammar

section Condition

variable (kind : Kind) (nullable : Bool)

/-- The value stands for an operand of the kind. -/
def Coercible (value : Json) : Prop :=
  (Coercion.operand? kind nullable value).isSome = true

/-- What an operator compares with. -/
inductive OperandOf : Operator → Json → Prop
  | bounds {low high : Json} (hkind : kind.isOrdinal = true) (hlow : Coercible kind nullable low)
      (hhigh : Coercible kind nullable high) : OperandOf .between (.array [low, high])
  | members {ignoreCase negated : Bool} {items : List Json} (hkind : Op.isIn.supports kind = true)
      (h : ∀ item ∈ items, Coercible kind nullable item) :
      OperandOf (.compare .isIn ignoreCase negated) (.array items)
  | pattern {ignoreCase negated : Bool} {source : String} (hkind : Op.regex.supports kind = true)
      (h : (Pattern.ofText? source).isSome = true) :
      OperandOf (.compare .regex ignoreCase negated) (.text source)
  | value {op : Op} {ignoreCase negated : Bool} {value : Json} (hkind : op.supports kind = true)
      (hmembers : op ≠ .isIn) (hpattern : op ≠ .regex) (h : Coercible kind nullable value) :
      OperandOf (.compare op ignoreCase negated) value

mutual

/-- A condition on a scalar. -/
inductive Condition : Json → Prop
  | value {value : Json} (h : Coercible kind nullable value) : Condition value
  | members {items : List Json} (h : ∀ item ∈ items, Coercible kind nullable item) :
      Condition (.array items)
  | operators {members : List (String × Json)}
      (h : ∀ member ∈ members, Requirement member.1 member.2) : Condition (.object members)

/-- One member of an object of operators. -/
inductive Requirement : String → Json → Prop
  | join {token : String} {combinator : Combinator} {items : List Json}
      (htoken : Combinator.ofKey? token = some combinator) (h : ∀ item ∈ items, Condition item) :
      Requirement token (.array items)
  | operator {token : String} {operator : Operator} {operand : Json}
      (htoken : Operator.ofToken? token = some operator)
      (h : OperandOf kind nullable operator operand) : Requirement token operand

end

end Condition

end Grammar

namespace Filter

open Grammar

theorem exists_map_ok {ε α β : Type} {f : α → β} {x : Except ε α} :
    (∃ b, x.map f = .ok b) ↔ ∃ a, x = .ok a := by
  cases x <;> simp [Except.map]

/-- Two parts that are put together compile if both do. -/
theorem exists_pair_ok {ε α β γ : Type} {g : α → β → γ} {x : Except ε α} {y : Except ε β} :
    (∃ c, (do let a ← x; let b ← y; .ok (g a b)) = Except.ok c) ↔
      (∃ a, x = .ok a) ∧ ∃ b, y = .ok b := by
  cases x <;> cases y <;> simp [bind, Except.bind]

/-! ### Conditions that compile -/

theorem exists_coerce_iff {kind : Kind} {nullable : Bool} {value : Json} :
    (∃ operand, coerce kind nullable value = .ok operand) ↔ Coercible kind nullable value := by
  simp only [coerce_eq_ok]
  exact Option.isSome_iff_exists.symm

theorem exists_coerceAll_iff {kind : Kind} {nullable : Bool} {items : List Json} :
    (∃ operands, coerceAll kind nullable items = .ok operands) ↔
      ∀ item ∈ items, Coercible kind nullable item := by
  induction items with
  | nil => simp [coerceAll]
  | cons item items ih => rw [coerceAll, exists_pair_ok, exists_coerce_iff, ih, List.forall_mem_cons]

theorem not_coercible_array {kind : Kind} {nullable : Bool} {items : List Json} :
    ¬ Coercible kind nullable (.array items) :=
  Bool.false_ne_true

theorem not_coercible_object {kind : Kind} {nullable : Bool} {members : List (String × Json)} :
    ¬ Coercible kind nullable (.object members) :=
  Bool.false_ne_true

namespace Target

variable {target : Target}

theorem exists_operand_iff {op : Op} {ignoreCase negated : Bool} {operand : Json}
    (hkind : op.supports target.kind = true) :
    (∃ o, target.operand op operand = .ok o) ↔
      OperandOf target.kind target.nullable (.compare op ignoreCase negated) operand := by
  by_cases hmembers : op = .isIn
  · subst hmembers
    match operand with
    | .array items =>
        rw [Target.operand, exists_map_ok, exists_coerceAll_iff]
        constructor
        · exact .members hkind
        · intro h
          cases h with
          | members _ h => exact h
          | value _ hmembers => exact absurd rfl hmembers
    | .null | .bool _ | .number _ | .text _ | .object _ =>
        constructor
        · rintro ⟨o, ⟨⟩⟩
        · intro h
          cases h with
          | value _ hmembers => exact absurd rfl hmembers
  by_cases hpattern : op = .regex
  · subst hpattern
    match operand with
    | .text source =>
        have hsource : (∃ o, target.operand .regex (.text source) = .ok o) ↔
            (Pattern.ofText? source).isSome = true := by
          rw [Target.operand]
          cases Pattern.ofText? source <;> simp
        rw [hsource]
        constructor
        · exact .pattern hkind
        · intro h
          cases h with
          | pattern _ h => exact h
          | value _ _ hpattern => exact absurd rfl hpattern
    | .null | .bool _ | .number _ | .array _ | .object _ =>
        constructor
        · rintro ⟨o, ⟨⟩⟩
        · intro h
          cases h with
          | value _ _ hpattern => exact absurd rfl hpattern
  · rw [operand_eq_coerce hmembers hpattern, exists_coerce_iff]
    constructor
    · exact .value hkind hmembers hpattern
    · intro h
      cases h with
      | members => exact absurd rfl hmembers
      | pattern => exact absurd rfl hpattern
      | value _ _ _ h => exact h

theorem exists_compileOperator_iff {operator : Operator} {operand : Json} :
    (∃ f, target.compileOperator operator operand = .ok f) ↔
      OperandOf target.kind target.nullable operator operand := by
  rw [compileOperator.eq_def]
  cases operator with
  | between =>
      dsimp only
      split
      next hkind =>
        split
        next low high =>
          rw [exists_pair_ok, exists_coerce_iff, exists_coerce_iff]
          constructor
          · rintro ⟨hlow, hhigh⟩
            exact .bounds hkind hlow hhigh
          · intro h
            cases h with
            | bounds _ hlow hhigh => exact ⟨hlow, hhigh⟩
        next hpair =>
          constructor
          · rintro ⟨f, ⟨⟩⟩
          · intro h
            cases h with
            | bounds => exact absurd rfl (hpair _ _)
      next hkind =>
        constructor
        · rintro ⟨f, ⟨⟩⟩
        · intro h
          cases h with
          | bounds hordinal => exact absurd hordinal hkind
  | compare op ignoreCase negated =>
      dsimp only
      split
      next hkind =>
        rw [← exists_operand_iff hkind]
        cases target.operand op operand <;> simp [bind, Except.bind]
      next hkind =>
        constructor
        · rintro ⟨f, ⟨⟩⟩
        · intro h
          cases h with
          | members h => exact absurd h hkind
          | pattern h => exact absurd h hkind
          | value h => exact absurd h hkind

theorem exists_scalar_iff {json : Json} (harray : ∀ items, json ≠ .array items)
    (hobject : ∀ members, json ≠ .object members) :
    (∃ f, target.compile json = .ok f) ↔ Coercible target.kind target.nullable json := by
  rw [← exists_coerce_iff, compile]
  · cases coerce target.kind target.nullable json <;> simp [bind, Except.bind]
  · exact hobject
  · exact harray

mutual

theorem exists_compile_iff (json : Json) :
    (∃ f, target.compile json = .ok f) ↔ Condition target.kind target.nullable json := by
  match json with
  | .object members =>
      rw [compile, exists_map_ok, exists_compileMembers_iff members]
      constructor
      · exact .operators
      · intro h
        cases h with
        | value h => exact absurd h not_coercible_object
        | operators h => exact h
  | .array items =>
      have hbind : (∃ f, target.compile (.array items) = .ok f) ↔
          ∃ operands, coerceAll target.kind target.nullable items = .ok operands := by
        rw [compile]
        cases coerceAll target.kind target.nullable items <;> simp [bind, Except.bind]
      rw [hbind, exists_coerceAll_iff]
      constructor
      · exact .members
      · intro h
        cases h with
        | value h => exact absurd h not_coercible_array
        | members h => exact h
  | .null | .bool _ | .number _ | .text _ =>
      rw [exists_scalar_iff (by simp) (by simp)]
      exact ⟨.value, fun h => by cases h with | value h => exact h⟩

theorem exists_compileMembers_iff (members : List (String × Json)) :
    (∃ filters, target.compileMembers members = .ok filters) ↔
      ∀ member ∈ members, Requirement target.kind target.nullable member.1 member.2 := by
  match members with
  | [] => simp [compileMembers]
  | (token, operand) :: members =>
      rw [compileMembers_cons, exists_pair_ok, exists_compileRequirement_iff token operand,
        exists_compileMembers_iff members, List.forall_mem_cons]

theorem exists_compileRequirement_iff (token : String) (operand : Json) :
    (∃ f, target.compileRequirement token operand = .ok f) ↔
      Requirement target.kind target.nullable token operand := by
  rw [compileRequirement]
  cases htoken : Combinator.ofKey? token with
  | some combinator =>
      have hoperator := ofToken?_of_ofKey? htoken
      match operand with
      | .array items =>
          dsimp only
          rw [exists_map_ok, exists_compileAll_iff items]
          constructor
          · exact .join htoken
          · intro h
            cases h with
            | join _ h => exact h
            | operator hsome => simp [hoperator] at hsome
      | .null | .bool _ | .number _ | .text _ | .object _ =>
          constructor
          · rintro ⟨f, ⟨⟩⟩
          · intro h
            cases h with
            | operator hsome => simp [hoperator] at hsome
  | none =>
      dsimp only
      cases hoperator : Operator.ofToken? token with
      | some operator =>
          dsimp only
          rw [exists_compileOperator_iff]
          constructor
          · exact .operator hoperator
          · intro h
            cases h with
            | join hsome => simp [htoken] at hsome
            | operator hsome h =>
                rw [hoperator] at hsome
                cases hsome
                exact h
      | none =>
          constructor
          · rintro ⟨f, ⟨⟩⟩
          · intro h
            cases h with
            | join hsome => simp [htoken] at hsome
            | operator hsome => simp [hoperator] at hsome

theorem exists_compileAll_iff (items : List Json) :
    (∃ filters, target.compileAll items = .ok filters) ↔
      ∀ item ∈ items, Condition target.kind target.nullable item := by
  match items with
  | [] => simp [compileAll]
  | item :: items =>
      rw [compileAll, exists_pair_ok, exists_compile_iff item, exists_compileAll_iff items,
        List.forall_mem_cons]

end

end Target

end Filter

end RecordQuery
