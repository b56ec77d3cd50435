import RecordQuery.Proofs.CompiledMeaning

/-!
# The filter of a member

A member of a document is a combinator over documents or asks something of the field at a path. What
is asked of the field compiles to a filter on the records that have the field, which the hops bring
back to the records of the document.
-/

namespace RecordQuery.Filter

theorem except_map_map {ε α β γ : Type} (g : β → γ) (f : α → β) (x : Except ε α) :
    (x.map f).map g = x.map (g ∘ f) := by
  cases x <;> rfl

/-- The filter of what is asked of the leaf of a path, on the records that have the leaf. -/
def compileLeaf (schema : Schema) (path : Path) (value : Json) : Except QueryError Filter :=
  if path.leaf.collection then
    match value with
    | .object members =>
      (compileElements (schema.nested? path.leaf) (.ofElement path.leaf) path.text members).map
        fun filters => .some path.leaf.name (.all filters)
    | _ => .error (.ambiguousCollection path.text)
  else if path.leaf.kind = .object then
    match schema.nested? path.leaf with
    | none => .error (.fieldNotFound path.text)
    | .some inner => match value with
      | .object members =>
        (compileMembers inner members).map fun filters => .scope path.leaf.name (.all filters)
      | _ => .error (.malformedFilter (.objectNeedsFields path.text))
  else (Target.ofLeaf path.leaf).compile value

/-- What a combinator joins in a document. -/
def compileJoined (schema : Schema) (key : String) (combinator : Combinator) :
    Json → Except QueryError Filter
  | .array items => (compileDocuments schema key items).map combinator.join
  | _ => .error (.malformedFilter (.combinatorNeedsArray key))

namespace Target

theorem operand_eq_coerce {target : Target} {op : Op} (hmembers : op ≠ .isIn) (hpattern : op ≠ .regex)
    (value : Json) : target.operand op value = coerce target.kind target.nullable value := by
  cases op <;> first | rfl | contradiction

/-- The filter of one member of a condition. -/
def compileRequirement (target : Target) (token : String) (operand : Json) :
    Except QueryError Filter :=
  match Combinator.ofKey? token with
  | .some combinator => match operand with
    | .array items => (target.compileAll items).map combinator.join
    | _ => .error (.malformedFilter (.combinatorNeedsArray token))
  | none => match Operator.ofToken? token with
    | .some operator => target.compileOperator operator operand
    | none => .error (.unknownOperator token)

theorem compileMembers_cons (target : Target) (token : String) (operand : Json)
    (members : List (String × Json)) :
    target.compileMembers ((token, operand) :: members) = (do
      let first ← target.compileRequirement token operand
      let rest ← target.compileMembers members
      .ok (first :: rest)) := by
  rw [compileMembers, compileRequirement]
  cases Combinator.ofKey? token with
  | some combinator => cases operand <;> rfl
  | none => cases Operator.ofToken? token <;> rfl

end Target

/-! ### Keys -/

section Key

variable {key : String}

theorem startsWithDollar_of_sameName {token : String} (h : Text.sameName key token = true)
    (htoken : startsWithDollar token = true) : startsWithDollar key = true := by
  have hlower : key.toList.map Char.toLower = token.toList.map Char.toLower := by
    simpa using congrArg String.toList (Text.sameName_iff.mp h)
  have hhead : token.toList.head? = Option.some '$' := by simpa [startsWithDollar] using htoken
  have hkey : key.toList.head?.map Char.toLower = Option.some '$' := by
    rw [← List.head?_map, hlower, List.head?_map, hhead]
    rfl
  obtain ⟨c, hc, hdollar⟩ := Option.map_eq_some_iff.mp hkey
  rw [startsWithDollar, hc, (Text.toLower_eq_iff rfl).mp hdollar]
  rfl

theorem sameName_of_ofKey? {combinator : Combinator}
    (h : Combinator.ofKey? key = Option.some combinator) :
    Text.sameName key "$and" = true ∨ Text.sameName key "$or" = true := by
  rw [Combinator.ofKey?] at h
  split at h
  next hand => exact Or.inl hand
  next =>
    split at h
    next hor => exact Or.inr hor
    next => cases h

/-- A key that names a combinator begins with a dollar sign. -/
theorem ofKey?_eq_none (h : startsWithDollar key = false) : Combinator.ofKey? key = none := by
  cases hkey : Combinator.ofKey? key with
  | none => rfl
  | some combinator =>
      rcases sameName_of_ofKey? hkey with hname | hname
      · rw [startsWithDollar_of_sameName hname rfl] at h
        cases h
      · rw [startsWithDollar_of_sameName hname rfl] at h
        cases h

theorem ofKey?_of_sameName (h : Text.sameName key anyKey = true) : Combinator.ofKey? key = none := by
  have hlower := Text.sameName_iff.mp h
  simp only [Combinator.ofKey?, Text.sameName, hlower]
  rfl

theorem ofToken?_eq_none (h : startsWithDollar key = false) : Operator.ofToken? key = none := by
  rw [Operator.ofToken?]
  split
  next chars hchars => simp [startsWithDollar, hchars] at h
  next => rfl

theorem not_sameName_anyKey (h : startsWithDollar key = false) :
    Text.sameName key anyKey = false := by
  by_contra hany
  rw [startsWithDollar_of_sameName (by simpa using hany) rfl] at h
  cases h

/-- No key names both a combinator and an operator. -/
theorem ofToken?_of_ofKey? {combinator : Combinator}
    (h : Combinator.ofKey? key = Option.some combinator) : Operator.ofToken? key = none := by
  rw [Operator.ofToken?]
  split
  next chars hchars =>
    have htail : ∀ {token : String}, Text.sameName key token = true →
        chars.map Char.toLower = (token.toList.map Char.toLower).tail := by
      intro token hname
      have hlist := congrArg String.toList (Text.sameName_iff.mp hname)
      rw [Text.toList_asciiLower, Text.toList_asciiLower, hchars] at hlist
      exact congrArg List.tail hlist
    rcases sameName_of_ofKey? h with hname | hname <;> rw [htail hname] <;> rfl
  next => rfl

theorem ofKey?_of_ofToken? {operator : Operator}
    (h : Operator.ofToken? key = Option.some operator) : Combinator.ofKey? key = none := by
  cases hkey : Combinator.ofKey? key with
  | none => rfl
  | some combinator =>
      rw [ofToken?_of_ofKey? hkey] at h
      cases h

end Key

/-! ### Members -/

section Member

variable {schema : Schema} {key : String} {path : Path}

theorem compileLeaf_scalar (hsingle : path.leaf.collection = false)
    (hkind : path.leaf.kind ≠ .object) (value : Json) :
    compileLeaf schema path value = (Target.ofLeaf path.leaf).compile value := by
  rw [compileLeaf.eq_def, if_neg (by simp [hsingle]), if_neg hkind]

theorem compileMember_path (hkey : startsWithDollar key = false)
    (hpath : schema.resolve? key = Option.some path) (value : Json) :
    compileMember schema key value = (compileLeaf schema path value).map (within path.before) := by
  rw [compileMember.eq_def]
  simp only [ofKey?_eq_none hkey, hkey, hpath, Bool.false_eq_true, if_false]
  rw [compileLeaf.eq_def]
  split
  · cases value with
    | object members =>
        dsimp only
        rw [except_map_map]
        rfl
    | _ => rfl
  · split
    · cases schema.nested? path.leaf with
      | none => rfl
      | some inner => cases value with
        | object members =>
            dsimp only
            rw [except_map_map]
            rfl
        | _ => rfl
    · rfl

theorem compileMember_unresolved (hkey : startsWithDollar key = false)
    (hpath : schema.resolve? key = none) (value : Json) :
    compileMember schema key value = .error (.fieldNotFound key) := by
  rw [compileMember.eq_def]
  simp only [ofKey?_eq_none hkey, hkey, hpath, Bool.false_eq_true, if_false]

theorem compileMember_reserved (hkey : Combinator.ofKey? key = none)
    (hdollar : startsWithDollar key = true) (value : Json) :
    compileMember schema key value = .error (.unknownOperator key) := by
  rw [compileMember.eq_def, hkey, hdollar]
  rfl

theorem compileMember_joined {combinator : Combinator}
    (hkey : Combinator.ofKey? key = Option.some combinator) (value : Json) :
    compileMember schema key value = compileJoined schema key combinator value := by
  rw [compileMember.eq_def, hkey]
  cases value <;> rfl

end Member

end RecordQuery.Filter
