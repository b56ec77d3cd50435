import RecordQuery.Proofs.ConditionMeaning
import RecordQuery.Proofs.LetterCase

/-!
# Negation and membership

A negated operator holds of exactly the values of which the operator does not hold, and a value is
a member of an array if it equals an item. Both are laws of clauses, whatever the operand and the
value are, and so null and absent values are no exceptions. For documents they are laws of what is
asked of a field of the record itself: behind a collection or a nested record, neither an operator
nor its negation holds where there is nothing to ask.
-/

namespace RecordQuery

/-! ### Clauses -/

namespace Clause

variable (field : Option String) (ignoreCase : Bool) (value : Value)

theorem equals_null : equals ignoreCase .null value = value.isAbsent := by
  cases value <;> rfl

/-- Inequality has its own case for null, which is the one of equality all the same. -/
theorem holds_ne (operand : Operand) :
    holds ⟨field, .ne, operand, ignoreCase⟩ value =
      !holds ⟨field, .eq, operand, ignoreCase⟩ value := by
  cases operand with
  | null =>
      change (!value.isAbsent) = !equals ignoreCase .null value
      rw [equals_null]
  | _ => rfl

end Clause

namespace Filter

/-! ### Conditions -/

namespace Target

variable {target : Target} {subject : Subject}

/-- What an operator says of the target of a subject, if the target can be asked. -/
def answer? (target : Target) (subject : Subject) (operator : Operator) (operand : Json) :
    Option Bool :=
  (target.compileOperator operator operand).toOption.map (holds subject)

theorem answer?_compare (op : Op) (ignoreCase negated : Bool) (operand : Json) :
    target.answer? subject (.compare op ignoreCase negated) operand =
      if op.supports target.kind then
        (target.operand op operand).toOption.map fun operand =>
          negated ^^ Clause.holds ⟨target.field, op, operand, ignoreCase && target.kind == .text⟩
            (subject.read target.field)
      else none := by
  rw [answer?, compileOperator]
  split
  · cases target.operand op operand with
    | error e => rfl
    | ok operand => cases negated <;> simp [bind, Except.bind, Except.toOption, holds, clause]
  · rfl

theorem answer?_negated (op : Op) (ignoreCase : Bool) (operand : Json) :
    target.answer? subject (.compare op ignoreCase true) operand =
      (target.answer? subject (.compare op ignoreCase false) operand).map not := by
  rw [answer?_compare, answer?_compare]
  split
  · cases target.operand op operand <;> simp [Except.toOption]
  · rfl

theorem answer?_ne (ignoreCase : Bool) (operand : Json) :
    target.answer? subject (.compare .ne ignoreCase false) operand =
      (target.answer? subject (.compare .eq ignoreCase false) operand).map not := by
  have hsupports : Op.ne.supports target.kind = Op.eq.supports target.kind := rfl
  have hoperand : target.operand .ne operand = target.operand .eq operand := by
    rw [operand_eq_coerce (by decide) (by decide), operand_eq_coerce (by decide) (by decide)]
  rw [answer?_compare, answer?_compare, hsupports, hoperand]
  split
  · cases target.operand .eq operand <;> simp [Except.toOption, Clause.holds_ne]
  · rfl

/-- An array has an operand for each of its items. -/
theorem any_coerceAll {kind : Kind} {nullable : Bool} {items : List Json} {operands : List Operand}
    (h : coerceAll kind nullable items = .ok operands) (test : Operand → Bool) :
    (∀ item ∈ items, ((coerce kind nullable item).toOption.map test).isSome) ∧
      (operands.any test = true ↔ ∃ item ∈ items,
        (coerce kind nullable item).toOption.map test = Option.some true) := by
  induction items generalizing operands with
  | nil =>
      cases h
      simp
  | cons item items ih =>
      obtain ⟨first, hfirst, h⟩ := bind_eq_ok.mp h
      obtain ⟨rest, hrest, h⟩ := bind_eq_ok.mp h
      cases h
      obtain ⟨hsome, hany⟩ := ih hrest
      simpa [hfirst, hany, Except.toOption] using hsome

theorem answer?_isIn {items : List Json} {answer : Bool}
    (h : target.answer? subject (.compare .isIn false false) (.array items) = Option.some answer) :
    (∀ item ∈ items, (target.answer? subject (.compare .eq false false) item).isSome) ∧
      (answer = true ↔ ∃ item ∈ items,
        target.answer? subject (.compare .eq false false) item = Option.some true) := by
  rw [answer?_compare] at h
  split at h
  case isFalse => cases h
  next hsupports =>
    obtain ⟨operand, hoperand, rfl⟩ := toOption_map_eq_some.mp h
    obtain ⟨operands, hoperands, rfl⟩ := map_eq_ok.mp hoperand
    have hsupports : Op.eq.supports target.kind = true := hsupports
    have hitem : ∀ item, target.operand .eq item = coerce target.kind target.nullable item :=
      operand_eq_coerce (by decide) (by decide)
    simp only [answer?_compare, hsupports, if_true, hitem, Bool.false_xor]
    exact any_coerceAll hoperands _

theorem answer?_notIn {items : List Json} {answer : Bool}
    (h : target.answer? subject (.compare .isIn false true) (.array items) = Option.some answer) :
    (∀ item ∈ items, (target.answer? subject (.compare .ne false false) item).isSome) ∧
      (answer = true ↔ ∀ item ∈ items,
        target.answer? subject (.compare .ne false false) item = Option.some true) := by
  rw [answer?_negated] at h
  obtain ⟨positive, hpositive, rfl⟩ := Option.map_eq_some_iff.mp h
  obtain ⟨hsome, hany⟩ := answer?_isIn hpositive
  simp only [answer?_ne, Option.isSome_map]
  refine ⟨hsome, ?_⟩
  rw [Bool.not_eq_true', ← Bool.not_eq_true, hany, not_exists]
  refine forall_congr' fun item => ?_
  rw [not_and]
  refine forall_congr' fun hitem => ?_
  obtain ⟨equal, hequal⟩ := Option.isSome_iff_exists.mp (hsome item hitem)
  cases equal <;> simp [hequal]

end Target

/-! ### Documents -/

/-- What a document says of a record, if it compiles. -/
def answer? (schema : Schema) (r : Record) (document : Json) : Option Bool :=
  (compile schema document).toOption.map fun f => f.accepts r

/-- A document with one operator under one key. -/
def asked (key token : String) (operand : Json) : Json :=
  .object [(key, .object [(token, operand)])]

theorem answer?_asked (schema : Schema) (r : Record) (key token : String) (operand : Json) :
    answer? schema r (asked key token operand) =
      (compileMember schema key (.object [(token, operand)])).toOption.map (accepts · r) := by
  rw [answer?, asked, compile_singleton]

section Asked

variable {schema : Schema} {key token : String} {op : Op} {ignoreCase negated : Bool}

/-- A comparison names neither a field nor what is asked of the elements of a collection. -/
theorem toOption_compileLeaf_comparison {path : Path}
    (htoken : Operator.ofToken? token = Option.some (.compare op ignoreCase negated))
    (hleaf : path.leaf.collection = true ∨ path.leaf.kind = .object) (operand : Json) :
    (compileLeaf schema path (.object [(token, operand)])).toOption = none := by
  have hkey := ofKey?_of_ofToken? htoken
  have hdollar : startsWithDollar token = true := by
    by_contra hdollar
    rw [ofToken?_eq_none (by simpa using hdollar)] at htoken
    cases htoken
  rw [compileLeaf.eq_def]
  by_cases hmany : path.leaf.collection = true
  · have hany : Text.sameName token anyKey = false := by
      by_contra hany
      have hnone : Operator.ofToken? anyKey = none := by decide
      rw [Operator.ofToken?_caseBlind.congr (by simpa using hany), hnone] at htoken
      cases htoken
    rw [if_pos hmany]
    dsimp only
    rw [compileElements_cons, compileEntry.eq_def, if_neg (by simp [hany]), hkey, hdollar]
    rfl
  · rw [if_neg hmany, if_pos (hleaf.resolve_left hmany)]
    cases schema.nested? path.leaf with
    | none => rfl
    | some inner =>
        dsimp only
        rw [compileMembers, compileMember_reserved hkey hdollar]
        rfl

/-- A key without a dot names a field of the record itself. -/
theorem before_of_resolve? (hdot : '.' ∉ key.toList) :
    ∀ path, schema.resolve? key = Option.some path → path.before = [] := by
  intro path hpath
  rw [resolve?_undotted_segment hdot, Schema.follow?] at hpath
  obtain ⟨f, -, rfl⟩ := Option.map_eq_some_iff.mp hpath
  rfl

/-- A comparison that is asked of a field of the record itself is asked of a scalar; of anything
else it does not compile. -/
theorem exists_target (hroot : ∀ path, schema.resolve? key = Option.some path → path.before = [])
    (r : Record) :
    ∃ target? : Option Target, ∀ {token op ignoreCase negated},
      Operator.ofToken? token = Option.some (.compare op ignoreCase negated) → ∀ operand,
        answer? schema r (asked key token operand) =
          target?.bind fun target =>
            target.answer? (.record r) (.compare op ignoreCase negated) operand := by
  cases hkey : Combinator.ofKey? key with
  | some combinator =>
      refine ⟨none, fun _ operand => ?_⟩
      rw [answer?_asked, toOption_compileMember_join hkey (by simp)]
      rfl
  | none =>
      cases hdollar : startsWithDollar key with
      | true =>
          refine ⟨none, fun _ operand => ?_⟩
          rw [answer?_asked, compileMember_reserved hkey hdollar]
          rfl
      | false =>
          simp only [answer?_asked, toOption_compileMember hdollar]
          cases hpath : schema.resolve? key with
          | none => exact ⟨none, fun _ _ => rfl⟩
          | some path =>
              have hwithin : within path.before = id := by
                rw [hroot path hpath]
                rfl
              simp only [Option.bind_some, hwithin, Option.map_id, id_eq]
              by_cases hleaf : path.leaf.collection = true ∨ path.leaf.kind = .object
              · refine ⟨none, fun htoken operand => ?_⟩
                rw [toOption_compileLeaf_comparison htoken hleaf]
                rfl
              · obtain ⟨hsingle, hkind⟩ := not_or.mp hleaf
                refine ⟨Option.some (.ofLeaf path.leaf), fun htoken operand => ?_⟩
                rw [compileLeaf_scalar (by simpa using hsingle) hkind,
                  Target.compile_comparison htoken]
                rfl

/-- **Negated operators are complements, and membership is equality with an item.** What a document
asks of a field of the record itself, it asks of whatever the record holds there: the value may be
absent or of another kind, the operand may be null and the array empty. -/
theorem complement_and_membership
    (hroot : ∀ path, schema.resolve? key = Option.some path → path.before = []) (r : Record) :
    (∀ v, answer? schema r (asked key "$ne" v) = (answer? schema r (asked key "$eq" v)).map not ∧
      answer? schema r (asked key "$neI" v) = (answer? schema r (asked key "$eqI" v)).map not ∧
      answer? schema r (asked key "$notContains" v) =
        (answer? schema r (asked key "$contains" v)).map not ∧
      answer? schema r (asked key "$notContainsI" v) =
        (answer? schema r (asked key "$containsI" v)).map not) ∧
    ∀ vs b,
      (answer? schema r (asked key "$in" (.array vs)) = Option.some b →
        (∀ v ∈ vs, (answer? schema r (asked key "$eq" v)).isSome) ∧
        (b = true ↔ ∃ v ∈ vs, answer? schema r (asked key "$eq" v) = Option.some true)) ∧
      (answer? schema r (asked key "$notIn" (.array vs)) = Option.some b →
        (∀ v ∈ vs, (answer? schema r (asked key "$ne" v)).isSome) ∧
        (b = true ↔ ∀ v ∈ vs, answer? schema r (asked key "$ne" v) = Option.some true)) := by
  obtain ⟨target?, hasked⟩ := exists_target hroot r
  have htokens : Operator.ofToken? "$eq" = Option.some (.compare .eq false false) ∧
      Operator.ofToken? "$ne" = Option.some (.compare .ne false false) ∧
      Operator.ofToken? "$eqI" = Option.some (.compare .eq true false) ∧
      Operator.ofToken? "$neI" = Option.some (.compare .ne true false) ∧
      Operator.ofToken? "$contains" = Option.some (.compare .contains false false) ∧
      Operator.ofToken? "$notContains" = Option.some (.compare .contains false true) ∧
      Operator.ofToken? "$containsI" = Option.some (.compare .contains true false) ∧
      Operator.ofToken? "$notContainsI" = Option.some (.compare .contains true true) ∧
      Operator.ofToken? "$in" = Option.some (.compare .isIn false false) ∧
      Operator.ofToken? "$notIn" = Option.some (.compare .isIn false true) := by decide
  obtain ⟨heq, hne, heqI, hneI, hcontains, hnotContains, hcontainsI, hnotContainsI, hin, hnotIn⟩ :=
    htokens
  simp only [hasked heq, hasked hne, hasked heqI, hasked hneI, hasked hcontains,
    hasked hnotContains, hasked hcontainsI, hasked hnotContainsI, hasked hin, hasked hnotIn]
  cases target? with
  | none => simp
  | some target =>
      refine ⟨fun v => ⟨Target.answer?_ne false v, Target.answer?_ne true v,
        Target.answer?_negated .contains false v, Target.answer?_negated .contains true v⟩,
        fun vs b => ⟨Target.answer?_isIn, Target.answer?_notIn⟩⟩

end Asked

/-- Without an author, neither is the author Bob nor is the author somebody else. -/
example :
    answer? Article.schema (Article.ofAuthor .absent) (asked "author.name" "$eq" (.text "Bob")) =
      Option.some false ∧
    answer? Article.schema (Article.ofAuthor .absent) (asked "author.name" "$ne" (.text "Bob")) =
      Option.some false := by
  decide +kernel

end Filter

namespace Article

/-- What an operator says of the score of an article without a score. -/
def unscored (token : String) (operand : Json) : Option Bool :=
  Filter.answer? schema (ofAuthor .absent) (Filter.asked "Score" token operand)

/-- An absent score equals null and is not among no scores. -/
theorem complement_unscored :
    unscored "$eq" .null = some true ∧ unscored "$ne" .null = (unscored "$eq" .null).map not ∧
      unscored "$in" (.array [.null]) = some true ∧
      (∃ v ∈ [Json.null], unscored "$eq" v = some true) ∧
      unscored "$notIn" (.array []) = some true ∧ ∀ v ∈ [], unscored "$ne" v = some true := by
  have hroot : ∀ path, schema.resolve? "Score" = some path → path.before = [] :=
    Filter.before_of_resolve? (by decide)
  obtain ⟨hnegated, hmembers⟩ := Filter.complement_and_membership hroot (ofAuthor .absent)
  have hin : unscored "$in" (.array [.null]) = some true := by decide +kernel
  have hnotIn : unscored "$notIn" (.array []) = some true := by decide +kernel
  exact ⟨by decide +kernel, (hnegated .null).1, hin, (((hmembers _ _).1 hin).2).mp rfl, hnotIn,
    (((hmembers _ _).2 hnotIn).2).mp rfl⟩

end Article

end RecordQuery
