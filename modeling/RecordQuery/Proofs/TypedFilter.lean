import RecordQuery.Proofs.CompiledMeaning
import RecordQuery.Proofs.OperandKind

/-!
# Typed filters

A filter is typed for what it is tested on, the records of a schema or the scalars of a collection,
when each part of it asks for what is declared there. Clauses name scalar fields and compare them
with operands of their kinds, scopes name fields of records and quantifiers name collections. Every
document that is accepted compiles to a typed filter.
-/

namespace RecordQuery

open RecordQuery.Filter (Target)

/-- What an operator is given: the candidates of a membership, a pattern, or one scalar. -/
def Operand.Suits (kind : Kind) (nullable : Bool) (op : Op) (operand : Operand) : Prop :=
  match op with
  | .isIn => ∃ items, operand = .set items ∧ ∀ item ∈ items, item.OfKind kind nullable
  | .regex => ∃ p, operand = .pattern p
  | _ => operand.OfKind kind nullable

/-- The operators of documents; the other two compare places in a sort order. -/
def Op.Asked (op : Op) : Prop :=
  op ≠ .before ∧ op ≠ .after

/-- The clause asks of a scalar what can be asked of its kind. -/
structure Clause.Typed (kind : Kind) (nullable : Bool) (c : Clause) : Prop where
  asked : c.op.Asked
  supports : c.op.supports kind
  operand : c.operand.Suits kind nullable c.op
  ignoreCase : c.ignoreCase → kind = .text

namespace Filter

/-- What a filter is tested on: records of a schema, or the scalars that a collection holds. -/
inductive Context where
  | records (schema : Schema)
  | scalars (collection : Field)

inductive Typed : Context → Filter → Prop
  | const {context : Context} (b : Bool) : Typed context (.const b)
  /-- A clause on a record names a scalar field as it is declared. -/
  | field {schema : Schema} {f : Field} {c : Clause}
      (hfield : schema.field? f.name = Option.some f) (hsingle : f.collection = false)
      (hkind : f.kind ≠ .object) (hname : c.field = Option.some f.name)
      (h : c.Typed f.kind f.nullable) : Typed (.records schema) (.clause c)
  /-- A clause on an element names no field. -/
  | element {f : Field} {c : Clause} (hname : c.field = none) (h : c.Typed f.kind f.nullable) :
      Typed (.scalars f) (.clause c)
  | conj {context : Context} {children : List Filter}
      (h : ∀ child ∈ children, Typed context child) : Typed context (.conj children)
  | disj {context : Context} {children : List Filter}
      (h : ∀ child ∈ children, Typed context child) : Typed context (.disj children)
  | neg {context : Context} {inner : Filter} (h : Typed context inner) : Typed context (.neg inner)
  | scope {schema nested : Schema} {f : Field} {inner : Filter}
      (hfield : schema.field? f.name = Option.some f) (hsingle : f.collection = false)
      (hkind : f.kind = .object) (hnested : schema.nested? f = Option.some nested)
      (h : Typed (.records nested) inner) : Typed (.records schema) (.scope f.name inner)
  | someRecord {schema nested : Schema} {f : Field} {inner : Filter}
      (hfield : schema.field? f.name = Option.some f) (hmany : f.collection = true)
      (hkind : f.kind = .object) (hnested : schema.nested? f = Option.some nested)
      (h : Typed (.records nested) inner) : Typed (.records schema) (.some f.name inner)
  | someScalar {schema : Schema} {f : Field} {inner : Filter}
      (hfield : schema.field? f.name = Option.some f) (hmany : f.collection = true)
      (hkind : f.kind ≠ .object) (h : Typed (.scalars f) inner) :
      Typed (.records schema) (.some f.name inner)

/-! ### Joined filters -/

section Joined

variable {context : Context} {filters : List Filter}

theorem Typed.conjuncts {f : Filter} (h : f.Typed context) :
    ∀ part ∈ f.conjuncts, part.Typed context := by
  intro part hpart
  unfold Filter.conjuncts at hpart
  split at hpart
  next =>
    cases h with
    | conj hchildren => exact hchildren part hpart
  next => cases hpart
  next =>
    rw [List.mem_singleton.mp hpart]
    exact h

theorem Typed.disjuncts {f : Filter} (h : f.Typed context) :
    ∀ part ∈ f.disjuncts, part.Typed context := by
  intro part hpart
  unfold Filter.disjuncts at hpart
  split at hpart
  next =>
    cases h with
    | disj hchildren => exact hchildren part hpart
  next =>
    rw [List.mem_singleton.mp hpart]
    exact h

theorem typed_all (h : ∀ f ∈ filters, f.Typed context) : (all filters).Typed context := by
  have hparts : ∀ part ∈ filters.flatMap conjuncts, part.Typed context := by
    intro part hpart
    obtain ⟨f, hf, hpart⟩ := List.mem_flatMap.mp hpart
    exact (h f hf).conjuncts part hpart
  rw [all]
  split
  next => exact .const true
  next f hone => exact hparts f (by simp [hone])
  next => exact .conj hparts

theorem typed_any (h : ∀ f ∈ filters, f.Typed context) : (any filters).Typed context := by
  have hparts : ∀ part ∈ filters.flatMap disjuncts, part.Typed context := by
    intro part hpart
    obtain ⟨f, hf, hpart⟩ := List.mem_flatMap.mp hpart
    exact (h f hf).disjuncts part hpart
  rw [any]
  split
  next f hone => exact hparts f (by simp [hone])
  next => exact .disj hparts

theorem typed_join (combinator : Combinator) (h : ∀ f ∈ filters, f.Typed context) :
    (combinator.join filters).Typed context := by
  cases filters with
  | nil => exact .const true
  | cons f fs =>
      cases combinator with
      | and => exact typed_all h
      | or => exact typed_any h

end Joined

end Filter

/-! ### Conditions -/

theorem Operator.comparison?_asked {name : String} {op : Op} {ignoreCase : Bool}
    (h : comparison? name = some (op, ignoreCase)) : op.Asked := by
  unfold comparison? at h
  split at h <;> cases h <;> exact ⟨by decide, by decide⟩

/-- No token names an operator of the sort order. -/
theorem Operator.ofToken?_asked {token : String} {op : Op} {ignoreCase negated : Bool}
    (h : ofToken? token = some (.compare op ignoreCase negated)) : op.Asked := by
  unfold ofToken? at h
  split at h
  case h_2 => cases h
  split at h
  next => cases h
  next =>
    split at h
    next => cases h; exact ⟨by decide, by decide⟩
    next => cases h; exact ⟨by decide, by decide⟩
    next => cases h
  next =>
    obtain ⟨⟨op, ignoreCase⟩, hname, h⟩ := Option.map_eq_some_iff.mp h
    cases h
    exact comparison?_asked hname

theorem coerceAll_ofKind {kind : Kind} {nullable : Bool} {values : List Json}
    {operands : List Operand} (h : coerceAll kind nullable values = .ok operands) :
    ∀ operand ∈ operands, operand.OfKind kind nullable := by
  induction values generalizing operands with
  | nil =>
      cases h
      exact fun operand hoperand => by cases hoperand
  | cons value values ih =>
      obtain ⟨first, hfirst, h⟩ := bind_eq_ok.mp h
      obtain ⟨rest, hrest, h⟩ := bind_eq_ok.mp h
      cases h
      exact List.forall_mem_cons.mpr ⟨Coercion.operand?_ofKind (coerce_eq_ok.mp hfirst), ih hrest⟩

namespace Filter.Target

variable {target : Target} {context : Context}

/-- The scalar of the target is there to be compared. -/
structure StandsIn (target : Target) (context : Context) : Prop where
  scalar : target.kind ≠ .object
  clause : ∀ c : Clause, c.field = target.field → c.Typed target.kind target.nullable →
    Typed context (.clause c)

theorem operand_suits {op : Op} {value : Json} {operand : Operand}
    (h : target.operand op value = .ok operand) :
    operand.Suits target.kind target.nullable op := by
  cases op with
  | isIn =>
      cases value with
      | array items =>
          obtain ⟨operands, hoperands, rfl⟩ := map_eq_ok.mp h
          exact ⟨operands, rfl, coerceAll_ofKind hoperands⟩
      | _ => cases h
  | regex =>
      cases value with
      | text source =>
          simp only [Target.operand] at h
          split at h
          next p _ =>
            cases h
            exact ⟨p, rfl⟩
          next => cases h
      | _ => cases h
  | _ => exact Coercion.operand?_ofKind (coerce_eq_ok.mp h)

theorem StandsIn.typed_clause (htarget : target.StandsIn context) {op : Op} {operand : Operand}
    {ignoreCase : Bool} (hasked : op.Asked) (hsupports : op.supports target.kind)
    (hoperand : operand.Suits target.kind target.nullable op)
    (hcase : ignoreCase → target.kind = .text) :
    (target.clause op operand ignoreCase).Typed context :=
  htarget.clause _ rfl ⟨hasked, hsupports, hoperand, hcase⟩

theorem typed_compileOperator (htarget : target.StandsIn context) {token : String}
    {operator : Operator} (htoken : Operator.ofToken? token = Option.some operator) {json : Json}
    {f : Filter} (h : target.compileOperator operator json = .ok f) : f.Typed context := by
  rw [compileOperator.eq_def] at h
  cases operator with
  | between =>
      dsimp only at h
      split at h
      case isFalse => cases h
      next hordinal =>
        split at h
        next low high =>
          obtain ⟨lowest, hlow, h⟩ := bind_eq_ok.mp h
          obtain ⟨highest, hhigh, h⟩ := bind_eq_ok.mp h
          cases h
          have hlow := Coercion.operand?_ofKind (coerce_eq_ok.mp hlow)
          have hhigh := Coercion.operand?_ofKind (coerce_eq_ok.mp hhigh)
          refine typed_all (List.forall_mem_cons.mpr ⟨?_, List.forall_mem_singleton.mpr ?_⟩)
          · exact htarget.typed_clause ⟨by decide, by decide⟩ hordinal hlow (fun h => by cases h)
          · exact htarget.typed_clause ⟨by decide, by decide⟩ hordinal hhigh (fun h => by cases h)
        next => cases h
  | compare op ignoreCase negated =>
      dsimp only at h
      split at h
      case isFalse => cases h
      next hsupports =>
        obtain ⟨operand, hoperand, h⟩ := bind_eq_ok.mp h
        cases h
        have hclause : (target.clause op operand (ignoreCase && target.kind == .text)).Typed
            context := by
          refine htarget.typed_clause (Operator.ofToken?_asked htoken) hsupports
            (operand_suits hoperand) fun hcase => ?_
          simpa using (Bool.and_eq_true_iff.mp hcase).2
        cases negated with
        | false => exact hclause
        | true => exact .neg hclause

mutual

theorem typed_compile (htarget : target.StandsIn context) (json : Json) {f : Filter}
    (h : target.compile json = .ok f) : f.Typed context := by
  match json with
  | .object members =>
      rw [compile] at h
      obtain ⟨filters, hfilters, rfl⟩ := map_eq_ok.mp h
      exact typed_all (typed_compileMembers htarget members hfilters)
  | .array items =>
      rw [compile] at h
      obtain ⟨operands, hoperands, h⟩ := bind_eq_ok.mp h
      cases h
      exact htarget.typed_clause ⟨by decide, by decide⟩
        (by simpa [Op.supports] using htarget.scalar)
        ⟨operands, rfl, coerceAll_ofKind hoperands⟩ (fun h => by cases h)
  | .null | .bool _ | .number _ | .text _ =>
      rw [compile] at h
      · obtain ⟨operand, hoperand, h⟩ := bind_eq_ok.mp h
        cases h
        have hkind := Coercion.operand?_ofKind (coerce_eq_ok.mp hoperand)
        exact htarget.typed_clause ⟨by decide, by decide⟩
          (by simpa [Op.supports] using htarget.scalar) hkind (fun h => by cases h)
      · simp
      · simp

theorem typed_compileMembers (htarget : target.StandsIn context) (members : List (String × Json))
    {filters : List Filter} (h : target.compileMembers members = .ok filters) :
    ∀ f ∈ filters, f.Typed context := by
  match members with
  | [] =>
      cases h
      exact fun f hf => by cases hf
  | (token, operand) :: members =>
      rw [compileMembers] at h
      cases hkey : Combinator.ofKey? token with
      | some combinator =>
          rw [hkey] at h
          match operand with
          | .array items =>
              obtain ⟨first, hfirst, h⟩ := bind_eq_ok.mp h
              obtain ⟨rest, hrest, h⟩ := bind_eq_ok.mp h
              cases h
              obtain ⟨joined, hjoined, rfl⟩ := map_eq_ok.mp hfirst
              have hfirst := typed_join combinator (typed_compileAll htarget items hjoined)
              exact List.forall_mem_cons.mpr ⟨hfirst, typed_compileMembers htarget members hrest⟩
          | .null | .bool _ | .number _ | .text _ | .object _ => cases h
      | none =>
          rw [hkey] at h
          cases htoken : Operator.ofToken? token with
          | some operator =>
              rw [htoken] at h
              obtain ⟨first, hfirst, h⟩ := bind_eq_ok.mp h
              obtain ⟨rest, hrest, h⟩ := bind_eq_ok.mp h
              cases h
              have hfirst := typed_compileOperator htarget htoken hfirst
              exact List.forall_mem_cons.mpr ⟨hfirst, typed_compileMembers htarget members hrest⟩
          | none =>
              rw [htoken] at h
              cases h

theorem typed_compileAll (htarget : target.StandsIn context) (items : List Json)
    {filters : List Filter} (h : target.compileAll items = .ok filters) :
    ∀ f ∈ filters, f.Typed context := by
  match items with
  | [] =>
      cases h
      exact fun f hf => by cases hf
  | item :: items =>
      rw [compileAll] at h
      obtain ⟨first, hfirst, h⟩ := bind_eq_ok.mp h
      obtain ⟨rest, hrest, h⟩ := bind_eq_ok.mp h
      cases h
      exact List.forall_mem_cons.mpr
        ⟨typed_compile htarget item hfirst, typed_compileAll htarget items hrest⟩

end

end Filter.Target

/-! ### Paths -/

namespace Schema

/-- A field is found again by its declared name. -/
theorem field?_name {schema : Schema} {name : String} {f : Field}
    (h : schema.field? name = some f) : schema.field? f.name = some f :=
  (schema.field?_congr (field?_sameName h)).trans h

theorem Built.leaf {schema : Schema} (hbuilt : schema.Built) {names : List String}
    {path : Path} (hpath : schema.follow? names = some path) : path.leaf.Built schema.types := by
  induction names generalizing schema path with
  | nil => cases hpath
  | cons name names ih =>
      cases names with
      | nil =>
          obtain ⟨f, hf, rfl⟩ := Option.map_eq_some_iff.mp hpath
          exact hbuilt.field hf
      | cons next names =>
          obtain ⟨f, nested, rest, -, hnested, hrest, rfl⟩ := follow?_cons hpath
          have hleaf : rest.leaf.Built nested.types := ih (hbuilt.nested hnested) hrest
          rwa [types_of_nested? hnested] at hleaf

end Schema

namespace Filter

/-- **A filter within hops is typed where the hops begin**, if it is typed where they lead. -/
theorem typed_within {schema : Schema} {names : List String} {path : Path}
    (hpath : schema.follow? names = Option.some path) (hbuilt : schema.Built) {inner : Filter}
    (hinner : ∀ owner : Schema, owner.types = schema.types →
      owner.field? path.leaf.name = Option.some path.leaf → inner.Typed (.records owner)) :
    (within path.before inner).Typed (.records schema) := by
  induction names generalizing schema path with
  | nil => cases hpath
  | cons name names ih =>
      cases names with
      | nil =>
          obtain ⟨f, hf, rfl⟩ := Option.map_eq_some_iff.mp hpath
          exact hinner schema rfl (Schema.field?_name hf)
      | cons next names =>
          obtain ⟨f, nested, rest, hf, hnested, hrest, rfl⟩ := Schema.follow?_cons hpath
          have htypes : nested.types = schema.types := Schema.types_of_nested? hnested
          have hkind : f.kind = .object :=
            (Schema.exists_nested?_iff (hbuilt.field hf)).mp ⟨nested, hnested⟩
          have hrest : (within rest.before inner).Typed (.records nested) :=
            ih hrest (hbuilt.nested hnested) fun owner howner =>
              hinner owner (howner.trans htypes)
          change (if f.collection then Filter.some f.name (within rest.before inner)
            else Filter.scope f.name (within rest.before inner)).Typed (.records schema)
          cases hmany : f.collection with
          | true => exact .someRecord (Schema.field?_name hf) hmany hkind hnested hrest
          | false => exact .scope (Schema.field?_name hf) hmany hkind hnested hrest

/-- What the elements of a collection are tested as. -/
def elementContext (inner? : Option Schema) (leaf : Field) : Context :=
  match inner? with
  | .some inner => .records inner
  | none => .scalars leaf

section Leaf

variable {schema : Schema} {key : String} {path : Path}
  (hpath : schema.resolve? key = Option.some path) (hbuilt : schema.Built)

include hpath hbuilt

/-- The elements of a collection without a schema are scalars. -/
theorem leaf_kind_ne_object (hnested : schema.nested? path.leaf = none) :
    path.leaf.kind ≠ .object := by
  intro hkind
  have hleaf := hbuilt.leaf hpath
  obtain ⟨nested, hsome⟩ := (Schema.exists_nested?_iff hleaf).mpr hkind
  rw [hnested] at hsome
  cases hsome

theorem typed_collection (hmany : path.leaf.collection = true) {inner : Filter}
    (h : inner.Typed (elementContext (schema.nested? path.leaf) path.leaf)) :
    (within path.before (.some path.leaf.name inner)).Typed (.records schema) := by
  refine typed_within hpath hbuilt fun owner htypes hfield => ?_
  cases hnested : schema.nested? path.leaf with
  | some nested =>
      have hkind := (Schema.exists_nested?_iff (hbuilt.leaf hpath)).mp ⟨nested, hnested⟩
      rw [hnested] at h
      rw [← Schema.nested?_congr htypes] at hnested
      exact .someRecord hfield hmany hkind hnested h
  | none =>
      rw [hnested] at h
      exact .someScalar hfield hmany (leaf_kind_ne_object hpath hbuilt hnested) h

theorem typed_nested (hsingle : path.leaf.collection = false) (hkind : path.leaf.kind = .object)
    {nested : Schema} (hnested : schema.nested? path.leaf = Option.some nested) {inner : Filter}
    (h : inner.Typed (.records nested)) :
    (within path.before (.scope path.leaf.name inner)).Typed (.records schema) := by
  refine typed_within hpath hbuilt fun owner htypes hfield => ?_
  rw [← Schema.nested?_congr htypes] at hnested
  exact .scope hfield hsingle hkind hnested h

theorem typed_scalar (hsingle : path.leaf.collection = false) (hkind : path.leaf.kind ≠ .object)
    {inner : Filter} (h : ∀ context, (Target.ofLeaf path.leaf).StandsIn context →
      inner.Typed context) :
    (within path.before inner).Typed (.records schema) := by
  refine typed_within hpath hbuilt fun owner _ hfield => h _ ⟨hkind, ?_⟩
  intro c hname hc
  exact .field hfield hsingle hkind hname hc

end Leaf

/-! ### Documents -/

-- The recursion is on the JSON, like the one of the compiler; the schema varies with it.
mutual

theorem typed_compileMembers {schema : Schema} (hbuilt : schema.Built)
    (entries : List (String × Json)) {filters : List Filter}
    (h : compileMembers schema entries = .ok filters) :
    ∀ f ∈ filters, f.Typed (.records schema) := by
  match entries with
  | [] =>
      cases h
      exact fun f hf => by cases hf
  | (key, value) :: rest =>
      rw [compileMembers] at h
      obtain ⟨first, hfirst, h⟩ := bind_eq_ok.mp h
      obtain ⟨others, hothers, h⟩ := bind_eq_ok.mp h
      cases h
      exact List.forall_mem_cons.mpr ⟨typed_compileMember hbuilt key value hfirst,
        typed_compileMembers hbuilt rest hothers⟩

theorem typed_compileMember {schema : Schema} (hbuilt : schema.Built) (key : String) (value : Json)
    {f : Filter} (h : compileMember schema key value = .ok f) : f.Typed (.records schema) := by
  rw [compileMember.eq_def] at h
  cases hkey : Combinator.ofKey? key with
  | some combinator =>
      rw [hkey] at h
      match value with
      | .array items =>
          obtain ⟨filters, hfilters, rfl⟩ := map_eq_ok.mp h
          exact typed_join combinator (typed_compileDocuments hbuilt items hfilters)
      | .null | .bool _ | .number _ | .text _ | .object _ => cases h
  | none =>
      rw [hkey] at h
      dsimp only at h
      split at h
      next => cases h -- an operator in the place of a field
      next =>
        cases hpath : schema.resolve? key with
        | none =>
            rw [hpath] at h
            cases h
        | some path =>
            rw [hpath] at h
            dsimp only at h
            by_cases hmany : path.leaf.collection = true
            · rw [if_pos hmany] at h
              match value with
              | .object entries =>
                  obtain ⟨filters, hfilters, rfl⟩ := map_eq_ok.mp h
                  refine typed_collection hpath hbuilt hmany (typed_all ?_)
                  exact typed_compileElements (fun inner => hbuilt.nested)
                    (leaf_kind_ne_object hpath hbuilt) entries hfilters
              | .null | .bool _ | .number _ | .text _ | .array _ => cases h
            · rw [if_neg hmany] at h
              have hsingle : path.leaf.collection = false := by simpa using hmany
              by_cases hkind : path.leaf.kind = .object
              · rw [if_pos hkind] at h
                cases hnested : schema.nested? path.leaf with
                | none =>
                    rw [hnested] at h
                    cases h
                | some inner =>
                    rw [hnested] at h
                    match value with
                    | .object entries =>
                        obtain ⟨filters, hfilters, rfl⟩ := map_eq_ok.mp h
                        refine typed_nested hpath hbuilt hsingle hkind hnested (typed_all ?_)
                        exact typed_compileMembers (hbuilt.nested hnested) entries hfilters
                    | .null | .bool _ | .number _ | .text _ | .array _ => cases h
              · rw [if_neg hkind] at h
                obtain ⟨inner, hinner, rfl⟩ := map_eq_ok.mp h
                exact typed_scalar hpath hbuilt hsingle hkind fun context htarget =>
                  Target.typed_compile htarget value hinner

theorem typed_compileDocuments {schema : Schema} (hbuilt : schema.Built) {key : String}
    (items : List Json) {filters : List Filter}
    (h : compileDocuments schema key items = .ok filters) :
    ∀ f ∈ filters, f.Typed (.records schema) := by
  match items with
  | [] =>
      cases h
      exact fun f hf => by cases hf
  | .object entries :: rest =>
      rw [compileDocuments] at h
      obtain ⟨first, hfirst, h⟩ := bind_eq_ok.mp h
      obtain ⟨inner, hinner, rfl⟩ := map_eq_ok.mp hfirst
      obtain ⟨others, hothers, h⟩ := bind_eq_ok.mp h
      cases h
      have hfirst := typed_all (typed_compileMembers hbuilt entries hinner)
      exact List.forall_mem_cons.mpr ⟨hfirst, typed_compileDocuments hbuilt rest hothers⟩
  | .null :: _ | .bool _ :: _ | .number _ :: _ | .text _ :: _ | .array _ :: _ =>
      cases h

theorem typed_compileElements {inner? : Option Schema} {leaf : Field} {path : String}
    (hinner : ∀ inner, inner? = Option.some inner → inner.Built)
    (hscalar : inner? = none → leaf.kind ≠ .object) (entries : List (String × Json))
    {filters : List Filter}
    (h : compileElements inner? (.ofElement leaf) path entries = .ok filters) :
    ∀ f ∈ filters, f.Typed (elementContext inner? leaf) := by
  match entries with
  | [] =>
      cases h
      exact fun f hf => by cases hf
  | (key, value) :: rest =>
      rw [compileElements_cons] at h
      obtain ⟨first, hfirst, hrest⟩ := bind_eq_ok.mp h
      obtain ⟨others, hothers, rfl⟩ := map_eq_ok.mp hrest
      clear h hrest
      refine List.forall_mem_cons.mpr ⟨?_, typed_compileElements hinner hscalar rest hothers⟩
      unfold compileEntry at hfirst
      by_cases hany : Text.sameName key anyKey = true
      · rw [if_pos hany] at hfirst
        cases inner? with
        | some inner =>
            match value with
            | .object members =>
                obtain ⟨filters, hfilters, rfl⟩ := map_eq_ok.mp hfirst
                exact typed_all (typed_compileMembers (hinner inner rfl) members hfilters)
            | .null | .bool _ | .number _ | .text _ | .array _ => cases hfirst
        | none =>
            have htarget : (Target.ofElement leaf).StandsIn (.scalars leaf) :=
              ⟨hscalar rfl, fun c hname hc => .element hname hc⟩
            exact Target.typed_compile htarget value hfirst
      · rw [if_neg hany] at hfirst
        split at hfirst
        case isTrue => cases hfirst
        cases inner? with
        | some inner =>
            obtain ⟨f, hf, rfl⟩ := map_eq_ok.mp hfirst
            have htyped := typed_compileMember (hinner inner rfl) key value hf
            exact typed_all (List.forall_mem_singleton.mpr htyped)
        | none => cases hfirst

end

/-- **A compiled filter is typed for its schema.** -/
theorem typed_of_compile {schema : Schema} {document : Json} {f : Filter}
    (h : compile schema document = .ok f) (hbuilt : schema.Built) : f.Typed (.records schema) := by
  rw [compile.eq_def] at h
  cases document with
  | null =>
      cases h
      exact .const true
  | object members =>
      obtain ⟨filters, hfilters, rfl⟩ := map_eq_ok.mp h
      exact typed_all (typed_compileMembers hbuilt members hfilters)
  | _ => cases h

end Filter

namespace Article

theorem typed_document :
    schema.Built ∧ ∃ f, Filter.compile schema document = .ok f ∧ f.Typed (.records schema) := by
  have hcompiled : (Filter.compile schema document).toBool = true := by decide +kernel
  obtain ⟨f, hcompile⟩ := toBool_eq_true.mp hcompiled
  exact ⟨built, f, hcompile, Filter.typed_of_compile hcompile built⟩

end Article

end RecordQuery
