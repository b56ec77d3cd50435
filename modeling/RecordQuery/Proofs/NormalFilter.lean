import RecordQuery.Proofs.TypedFilter
import RecordQuery.Search

/-!
# Filters in normal form

Filters of documents and searches are flat: the parts of a conjunction are no conjunctions, those of
a disjunction no disjunctions, and there are at least two of them. Only clauses are negated. The
names in a filter are names of the schema, and where a filter is tested determines the kind of
the operand of each of its clauses. All this holds for any schema, also for one that uses a name
twice, and it is kept when filters are joined.
-/

namespace RecordQuery

open RecordQuery.Filter (Target)

/-- What the names in a filter refer to. -/
inductive Setting where
  | records (schema : Schema)
  | scalars (kind : Kind)
  | unknown

namespace Setting

/-- The kind of what a clause compares. -/
def kind? : Setting → Option String → Option Kind
  | records schema, some name => (schema.field? name).map Field.kind
  | scalars kind, none => some kind
  | _, _ => none

/-- What the nested record of a field or the elements of a collection are. -/
def ofNested (inner? : Option Schema) (f : Field) : Setting :=
  match inner? with
  | some inner => records inner
  | none => scalars f.kind

def enter : Setting → String → Setting
  | records schema, name => match schema.field? name with
    | some f => ofNested (schema.nested? f) f
    | none => unknown
  | _, _ => unknown

theorem enter_records {schema : Schema} {f : Field} (h : schema.field? f.name = some f) :
    (records schema).enter f.name = ofNested (schema.nested? f) f := by
  rw [enter, h]

end Setting

/-- The names of all fields, nested ones included, have a property. -/
structure Schema.Named (names : String → Prop) (schema : Schema) : Prop where
  type : ∀ f ∈ schema.type.fields, names f.name
  types : ∀ type ∈ schema.types, ∀ f ∈ type.fields, names f.name

theorem Schema.Named.nested {names : String → Prop} {schema inner : Schema} {f : Field}
    (hnamed : schema.Named names) (h : schema.nested? f = some inner) : inner.Named names := by
  obtain ⟨i, -, h⟩ := Option.bind_eq_some_iff.mp h
  obtain ⟨type, htype, rfl⟩ := Option.map_eq_some_iff.mp h
  exact ⟨hnamed.types type (List.mem_of_getElem? htype), hnamed.types⟩

/-- The clause names what it compares, and its operand is of the kind that is declared there. What
a text is to contain can only be a text. -/
structure Clause.Posed (names : String → Prop) (setting : Setting) (c : Clause) : Prop where
  name : ∀ name ∈ c.field, names name
  operand : ∃ kind nullable, c.operand.Suits kind nullable c.op ∧
    (c.op = .contains → kind = .text) ∧ (setting.kind? c.field = some kind ∨ c.op = .contains)

namespace Filter

inductive Normal (names : String → Prop) : Setting → Filter → Prop
  | const {setting : Setting} (b : Bool) : Normal names setting (.const b)
  | clause {setting : Setting} {c : Clause} (h : c.Posed names setting) :
      Normal names setting (.clause c)
  | negated {setting : Setting} {c : Clause} (h : c.Posed names setting) :
      Normal names setting (.neg (.clause c))
  | conj {setting : Setting} {children : List Filter} (hmany : 2 ≤ children.length)
      (hflat : ∀ child ∈ children, child.conjuncts = [child])
      (h : ∀ child ∈ children, Normal names setting child) : Normal names setting (.conj children)
  | disj {setting : Setting} {children : List Filter} (hmany : 2 ≤ children.length)
      (hflat : ∀ child ∈ children, child.disjuncts = [child])
      (h : ∀ child ∈ children, Normal names setting child) : Normal names setting (.disj children)
  | scope {setting : Setting} {field : String} {inner : Filter} (hname : names field)
      (h : Normal names (setting.enter field) inner) : Normal names setting (.scope field inner)
  | some {setting : Setting} {field : String} {inner : Filter} (hname : names field)
      (h : Normal names (setting.enter field) inner) : Normal names setting (.some field inner)

/-! ### Joined filters -/

section Joined

variable {names : String → Prop} {setting : Setting} {filters : List Filter} {f g : Filter}

theorem Normal.conjuncts (h : f.Normal names setting) :
    ∀ part ∈ f.conjuncts, part.Normal names setting ∧ part.conjuncts = [part] := by
  intro part hpart
  by_cases hself : f.conjuncts = [f]
  · rw [hself, List.mem_singleton] at hpart
    subst hpart
    exact ⟨h, hself⟩
  · cases h with
    | conj _ hflat hchildren => exact ⟨hchildren part hpart, hflat part hpart⟩
    | const b =>
        cases b with
        | true => cases hpart
        | false => exact absurd rfl hself
    | _ => exact absurd rfl hself

theorem Normal.disjuncts (h : f.Normal names setting) :
    ∀ part ∈ f.disjuncts, part.Normal names setting ∧ part.disjuncts = [part] := by
  intro part hpart
  by_cases hself : f.disjuncts = [f]
  · rw [hself, List.mem_singleton] at hpart
    subst hpart
    exact ⟨h, hself⟩
  · cases h with
    | disj _ hflat hchildren => exact ⟨hchildren part hpart, hflat part hpart⟩
    | _ => exact absurd rfl hself

theorem Normal.disjuncts_ne_nil (h : f.Normal names setting) : f.disjuncts ≠ [] := by
  cases h with
  | disj hmany _ _ => exact List.ne_nil_of_length_pos (Nat.lt_of_lt_of_le Nat.two_pos hmany)
  | _ => exact List.cons_ne_nil _ _

/-- A list that is neither empty nor a single element has at least two. -/
theorem two_le_length {α : Type} {xs : List α} (hnone : xs ≠ []) (hone : ∀ x, xs ≠ [x]) :
    2 ≤ xs.length := by
  match xs with
  | [x] => exact absurd rfl (hone x)
  | _ :: _ :: _ => simp

theorem normal_all (h : ∀ f ∈ filters, f.Normal names setting) :
    (all filters).Normal names setting := by
  have hparts : ∀ part ∈ filters.flatMap Filter.conjuncts,
      part.Normal names setting ∧ part.conjuncts = [part] := by
    intro part hpart
    obtain ⟨f, hf, hpart⟩ := List.mem_flatMap.mp hpart
    exact (h f hf).conjuncts part hpart
  rw [all]
  split
  next => exact .const true
  next f hone => exact (hparts f (by simp [hone])).1
  next hnone hone =>
    exact .conj (two_le_length hnone hone) (fun part hpart => (hparts part hpart).2)
      fun part hpart => (hparts part hpart).1

theorem normal_any (hne : filters ≠ []) (h : ∀ f ∈ filters, f.Normal names setting) :
    (any filters).Normal names setting := by
  have hparts : ∀ part ∈ filters.flatMap Filter.disjuncts,
      part.Normal names setting ∧ part.disjuncts = [part] := by
    intro part hpart
    obtain ⟨f, hf, hpart⟩ := List.mem_flatMap.mp hpart
    exact (h f hf).disjuncts part hpart
  have hsome : filters.flatMap Filter.disjuncts ≠ [] := by
    obtain ⟨f, fs, rfl⟩ := List.exists_cons_of_ne_nil hne
    rw [List.flatMap_cons]
    exact List.append_ne_nil_of_left_ne_nil (h f (by simp)).disjuncts_ne_nil _
  rw [any]
  split
  next f hone => exact (hparts f (by simp [hone])).1
  next hone =>
    exact .disj (two_le_length hsome hone) (fun part hpart => (hparts part hpart).2)
      fun part hpart => (hparts part hpart).1

theorem normal_join (combinator : Combinator) (h : ∀ f ∈ filters, f.Normal names setting) :
    (combinator.join filters).Normal names setting := by
  cases filters with
  | nil => exact .const true
  | cons f fs =>
      cases combinator with
      | and => exact normal_all h
      | or => exact normal_any (List.cons_ne_nil f fs) h

theorem Normal.and (hf : f.Normal names setting) (hg : g.Normal names setting) :
    (f.and g).Normal names setting :=
  normal_all (List.forall_mem_cons.mpr ⟨hf, List.forall_mem_singleton.mpr hg⟩)

theorem Normal.or (hf : f.Normal names setting) (hg : g.Normal names setting) :
    (f.or g).Normal names setting :=
  normal_any (List.cons_ne_nil _ _) (List.forall_mem_cons.mpr ⟨hf, List.forall_mem_singleton.mpr hg⟩)

end Joined

/-! ### Conditions -/

namespace Target

variable {names : String → Prop} {setting : Setting} {target : Target}

/-- The target is named, and its kind is that of what is declared there. -/
structure Stands (names : String → Prop) (setting : Setting) (target : Target) : Prop where
  name : ∀ name ∈ target.field, names name
  kind : setting.kind? target.field = Option.some target.kind

theorem Stands.posed (htarget : target.Stands names setting) {op : Op} {operand : Operand}
    (ignoreCase : Bool) (hoperand : operand.Suits target.kind target.nullable op)
    (htext : op = .contains → target.kind = .text) :
    Clause.Posed names setting ⟨target.field, op, operand, ignoreCase⟩ :=
  ⟨htarget.name, target.kind, target.nullable, hoperand, htext, Or.inl htarget.kind⟩

theorem normal_compileOperator (htarget : target.Stands names setting) {operator : Operator}
    {json : Json} {f : Filter} (h : target.compileOperator operator json = .ok f) :
    f.Normal names setting := by
  rw [compileOperator.eq_def] at h
  cases operator with
  | between =>
      dsimp only at h
      split at h
      case isFalse => cases h
      split at h
      next low high =>
        obtain ⟨lowest, hlow, h⟩ := bind_eq_ok.mp h
        obtain ⟨highest, hhigh, h⟩ := bind_eq_ok.mp h
        cases h
        have hlow := Coercion.operand?_ofKind (coerce_eq_ok.mp hlow)
        have hhigh := Coercion.operand?_ofKind (coerce_eq_ok.mp hhigh)
        refine normal_all (List.forall_mem_cons.mpr ⟨?_, List.forall_mem_singleton.mpr ?_⟩)
        · exact .clause (htarget.posed false hlow (fun h => by cases h))
        · exact .clause (htarget.posed false hhigh (fun h => by cases h))
      next => cases h
  | compare op ignoreCase negated =>
      dsimp only at h
      split at h
      case isFalse => cases h
      next hsupports =>
        obtain ⟨operand, hoperand, h⟩ := bind_eq_ok.mp h
        cases h
        have hposed := htarget.posed (ignoreCase && target.kind == .text) (operand_suits hoperand)
          fun hop => by simpa [hop, Op.supports] using hsupports
        cases negated with
        | false => exact .clause hposed
        | true => exact .negated hposed

mutual

theorem normal_compile (htarget : target.Stands names setting) (json : Json) {f : Filter}
    (h : target.compile json = .ok f) : f.Normal names setting := by
  match json with
  | .object members =>
      rw [compile] at h
      obtain ⟨filters, hfilters, rfl⟩ := map_eq_ok.mp h
      exact normal_all (normal_compileMembers htarget members hfilters)
  | .array items =>
      rw [compile] at h
      obtain ⟨operands, hoperands, h⟩ := bind_eq_ok.mp h
      cases h
      exact .clause (htarget.posed false ⟨operands, rfl, coerceAll_ofKind hoperands⟩
        (fun h => by cases h))
  | .null | .bool _ | .number _ | .text _ =>
      rw [compile] at h
      · obtain ⟨operand, hoperand, h⟩ := bind_eq_ok.mp h
        cases h
        have hkind := Coercion.operand?_ofKind (coerce_eq_ok.mp hoperand)
        exact .clause (htarget.posed false hkind (fun h => by cases h))
      · simp
      · simp

theorem normal_compileMembers (htarget : target.Stands names setting)
    (members : List (String × Json)) {filters : List Filter}
    (h : target.compileMembers members = .ok filters) : ∀ f ∈ filters, f.Normal names setting := by
  match members with
  | [] =>
      cases h
      exact fun f hf => by cases hf
  | (token, operand) :: members =>
      rw [compileMembers] at h
      cases hkey : Combinator.ofKey? token with
      | some combinator =>
          rw [hkey] at h
          match operand with
          | .array items =>
              obtain ⟨first, hfirst, h⟩ := bind_eq_ok.mp h
              obtain ⟨rest, hrest, h⟩ := bind_eq_ok.mp h
              cases h
              obtain ⟨joined, hjoined, rfl⟩ := map_eq_ok.mp hfirst
              have hfirst := normal_join combinator (normal_compileAll htarget items hjoined)
              exact List.forall_mem_cons.mpr ⟨hfirst, normal_compileMembers htarget members hrest⟩
          | .null | .bool _ | .number _ | .text _ | .object _ => cases h
      | none =>
          rw [hkey] at h
          cases htoken : Operator.ofToken? token with
          | some operator =>
              rw [htoken] at h
              obtain ⟨first, hfirst, h⟩ := bind_eq_ok.mp h
              obtain ⟨rest, hrest, h⟩ := bind_eq_ok.mp h
              cases h
              have hfirst := normal_compileOperator htarget hfirst
              exact List.forall_mem_cons.mpr ⟨hfirst, normal_compileMembers htarget members hrest⟩
          | none =>
              rw [htoken] at h
              cases h

theorem normal_compileAll (htarget : target.Stands names setting) (items : List Json)
    {filters : List Filter} (h : target.compileAll items = .ok filters) :
    ∀ f ∈ filters, f.Normal names setting := by
  match items with
  | [] =>
      cases h
      exact fun f hf => by cases hf
  | item :: items =>
      rw [compileAll] at h
      obtain ⟨first, hfirst, h⟩ := bind_eq_ok.mp h
      obtain ⟨rest, hrest, h⟩ := bind_eq_ok.mp h
      cases h
      exact List.forall_mem_cons.mpr
        ⟨normal_compile htarget item hfirst, normal_compileAll htarget items hrest⟩

end

end Target

/-! ### Documents -/

/-- **A filter within hops is normal where the hops begin**, if it is normal where they lead. -/
theorem normal_within {names : String → Prop} {schema : Schema} {segments : List String}
    {path : Path} (hpath : schema.follow? segments = Option.some path)
    (hnamed : schema.Named names) {inner : Filter}
    (hinner : ∀ owner : Schema, owner.types = schema.types → names path.leaf.name →
      owner.field? path.leaf.name = Option.some path.leaf →
        inner.Normal names (.records owner)) :
    (within path.before inner).Normal names (.records schema) := by
  induction segments generalizing schema path with
  | nil => cases hpath
  | cons segment segments ih =>
      cases segments with
      | nil =>
          obtain ⟨f, hf, rfl⟩ := Option.map_eq_some_iff.mp hpath
          exact hinner schema rfl (hnamed.type f (Schema.mem_of_field? hf)) (Schema.field?_name hf)
      | cons next segments =>
          obtain ⟨f, nested, rest, hf, hnested, hrest, rfl⟩ := Schema.follow?_cons hpath
          have htypes : nested.types = schema.types := Schema.types_of_nested? hnested
          have hname := hnamed.type f (Schema.mem_of_field? hf)
          have hrest : (within rest.before inner).Normal names
              ((Setting.records schema).enter f.name) := by
            rw [Setting.enter_records (Schema.field?_name hf), hnested]
            exact ih hrest (hnamed.nested hnested) fun owner howner =>
              hinner owner (howner.trans htypes)
          change (if f.collection then Filter.some f.name (within rest.before inner)
            else Filter.scope f.name (within rest.before inner)).Normal names (.records schema)
          split
          · exact .some hname hrest
          · exact .scope hname hrest

section Leaf

variable {names : String → Prop} {schema : Schema} {key : String} {path : Path}
  (hpath : schema.resolve? key = Option.some path) (hnamed : schema.Named names)

include hpath hnamed

theorem normal_collection {inner : Filter}
    (h : inner.Normal names (.ofNested (schema.nested? path.leaf) path.leaf)) :
    (within path.before (.some path.leaf.name inner)).Normal names (.records schema) := by
  refine normal_within hpath hnamed fun owner htypes hname hfield => .some hname ?_
  rwa [Setting.enter_records hfield, Schema.nested?_congr htypes]

theorem normal_nested {inner : Filter}
    (h : inner.Normal names (.ofNested (schema.nested? path.leaf) path.leaf)) :
    (within path.before (.scope path.leaf.name inner)).Normal names (.records schema) := by
  refine normal_within hpath hnamed fun owner htypes hname hfield => .scope hname ?_
  rwa [Setting.enter_records hfield, Schema.nested?_congr htypes]

theorem normal_scalar {inner : Filter} (h : ∀ setting,
      (Target.ofLeaf path.leaf).Stands names setting → inner.Normal names setting) :
    (within path.before inner).Normal names (.records schema) := by
  refine normal_within hpath hnamed fun owner _ hname hfield => h _ ⟨?_, ?_⟩
  · rintro name ⟨⟩
    exact hname
  · change (owner.field? path.leaf.name).map Field.kind = _
    rw [hfield]
    rfl

end Leaf

-- The recursion is on the JSON, like the one of the compiler; the schema varies with it.
mutual

theorem normal_compileMembers {names : String → Prop} {schema : Schema}
    (hnamed : schema.Named names) (entries : List (String × Json)) {filters : List Filter}
    (h : compileMembers schema entries = .ok filters) :
    ∀ f ∈ filters, f.Normal names (.records schema) := by
  match entries with
  | [] =>
      cases h
      exact fun f hf => by cases hf
  | (key, value) :: rest =>
      rw [compileMembers] at h
      obtain ⟨first, hfirst, h⟩ := bind_eq_ok.mp h
      obtain ⟨others, hothers, h⟩ := bind_eq_ok.mp h
      cases h
      exact List.forall_mem_cons.mpr ⟨normal_compileMember hnamed key value hfirst,
        normal_compileMembers hnamed rest hothers⟩

theorem normal_compileMember {names : String → Prop} {schema : Schema}
    (hnamed : schema.Named names) (key : String) (value : Json) {f : Filter}
    (h : compileMember schema key value = .ok f) : f.Normal names (.records schema) := by
  rw [compileMember.eq_def] at h
  cases hkey : Combinator.ofKey? key with
  | some combinator =>
      rw [hkey] at h
      match value with
      | .array items =>
          obtain ⟨filters, hfilters, rfl⟩ := map_eq_ok.mp h
          exact normal_join combinator (normal_compileDocuments hnamed items hfilters)
      | .null | .bool _ | .number _ | .text _ | .object _ => cases h
  | none =>
      rw [hkey] at h
      dsimp only at h
      split at h
      next => cases h -- an operator in the place of a field
      next =>
        cases hpath : schema.resolve? key with
        | none =>
            rw [hpath] at h
            cases h
        | some path =>
            rw [hpath] at h
            dsimp only at h
            split at h
            next =>
              match value with
              | .object entries =>
                  obtain ⟨filters, hfilters, rfl⟩ := map_eq_ok.mp h
                  refine normal_collection hpath hnamed (normal_all ?_)
                  exact normal_compileElements (fun inner => hnamed.nested) entries hfilters
              | .null | .bool _ | .number _ | .text _ | .array _ => cases h
            next =>
              split at h
              next =>
                cases hnested : schema.nested? path.leaf with
                | none =>
                    rw [hnested] at h
                    cases h
                | some inner =>
                    rw [hnested] at h
                    match value with
                    | .object entries =>
                        obtain ⟨filters, hfilters, rfl⟩ := map_eq_ok.mp h
                        refine normal_nested hpath hnamed ?_
                        rw [hnested]
                        have hinner := hnamed.nested hnested
                        exact normal_all (normal_compileMembers hinner entries hfilters)
                    | .null | .bool _ | .number _ | .text _ | .array _ => cases h
              next =>
                obtain ⟨inner, hinner, rfl⟩ := map_eq_ok.mp h
                exact normal_scalar hpath hnamed fun setting htarget =>
                  Target.normal_compile htarget value hinner

theorem normal_compileDocuments {names : String → Prop} {schema : Schema}
    (hnamed : schema.Named names) {key : String} (items : List Json) {filters : List Filter}
    (h : compileDocuments schema key items = .ok filters) :
    ∀ f ∈ filters, f.Normal names (.records schema) := by
  match items with
  | [] =>
      cases h
      exact fun f hf => by cases hf
  | .object entries :: rest =>
      rw [compileDocuments] at h
      obtain ⟨first, hfirst, h⟩ := bind_eq_ok.mp h
      obtain ⟨inner, hinner, rfl⟩ := map_eq_ok.mp hfirst
      obtain ⟨others, hothers, h⟩ := bind_eq_ok.mp h
      cases h
      have hfirst := normal_all (normal_compileMembers hnamed entries hinner)
      exact List.forall_mem_cons.mpr ⟨hfirst, normal_compileDocuments hnamed rest hothers⟩
  | .null :: _ | .bool _ :: _ | .number _ :: _ | .text _ :: _ | .array _ :: _ =>
      cases h

theorem normal_compileElements {names : String → Prop} {inner? : Option Schema} {leaf : Field}
    {path : String} (hnamed : ∀ inner, inner? = Option.some inner → inner.Named names)
    (entries : List (String × Json)) {filters : List Filter}
    (h : compileElements inner? (.ofElement leaf) path entries = .ok filters) :
    ∀ f ∈ filters, f.Normal names (.ofNested inner? leaf) := by
  match entries with
  | [] =>
      cases h
      exact fun f hf => by cases hf
  | (key, value) :: rest =>
      rw [compileElements_cons] at h
      obtain ⟨first, hfirst, hrest⟩ := bind_eq_ok.mp h
      obtain ⟨others, hothers, rfl⟩ := map_eq_ok.mp hrest
      clear h hrest
      refine List.forall_mem_cons.mpr ⟨?_, normal_compileElements hnamed rest hothers⟩
      unfold compileEntry at hfirst
      split at hfirst
      · cases inner? with
        | some inner =>
            match value with
            | .object members =>
                obtain ⟨filters, hfilters, rfl⟩ := map_eq_ok.mp hfirst
                exact normal_all (normal_compileMembers (hnamed inner rfl) members hfilters)
            | .null | .bool _ | .number _ | .text _ | .array _ => cases hfirst
        | none =>
            have htarget : (Target.ofElement leaf).Stands names (.ofNested none leaf) :=
              ⟨fun name hname => (by cases hname), rfl⟩
            exact Target.normal_compile htarget value hfirst
      · split at hfirst
        case isTrue => cases hfirst
        cases inner? with
        | some inner =>
            obtain ⟨f, hf, rfl⟩ := map_eq_ok.mp hfirst
            have hnormal := normal_compileMember (hnamed inner rfl) key value hf
            exact normal_all (List.forall_mem_singleton.mpr hnormal)
        | none => cases hfirst

end

/-- **A document compiles to a filter in normal form.** -/
theorem normal_of_compile {names : String → Prop} {schema : Schema} {document : Json} {f : Filter}
    (h : compile schema document = .ok f) (hnamed : schema.Named names) :
    f.Normal names (.records schema) := by
  rw [compile.eq_def] at h
  cases document with
  | null =>
      cases h
      exact .const true
  | object members =>
      obtain ⟨filters, hfilters, rfl⟩ := map_eq_ok.mp h
      exact normal_all (normal_compileMembers hnamed members hfilters)
  | _ => cases h

end Filter

/-! ### Searches -/

/-- The names of the path have a property. -/
def Path.Named (names : String → Prop) (p : Path) : Prop :=
  ∀ hop ∈ p.hops, names hop.name

theorem Schema.Named.path {names : String → Prop} {schema : Schema} (hnamed : schema.Named names)
    {segments : List String} {path : Path} (h : schema.follow? segments = some path) :
    path.Named names := by
  induction segments generalizing schema path with
  | nil => cases h
  | cons segment segments ih =>
      cases segments with
      | nil =>
          obtain ⟨f, hf, rfl⟩ := Option.map_eq_some_iff.mp h
          exact List.forall_mem_singleton.mpr (hnamed.type f (Schema.mem_of_field? hf))
      | cons next segments =>
          obtain ⟨f, nested, rest, hf, hnested, hrest, rfl⟩ := Schema.follow?_cons h
          exact List.forall_mem_cons.mpr
            ⟨hnamed.type f (Schema.mem_of_field? hf), ih (hnamed.nested hnested) hrest⟩

namespace Search

variable {names : String → Prop} {schema : Schema}

theorem named_of_mem_addPath {paths : List Path} {path : Path}
    (hpaths : ∀ p ∈ paths, p.Named names) (hpath : path.Named names) :
    ∀ p ∈ addPath paths path, p.Named names := by
  rw [addPath]
  split
  · exact List.forall_mem_append.mpr ⟨hpaths, List.forall_mem_singleton.mpr hpath⟩
  · exact hpaths

theorem named_of_mem_explicitTargets (hnamed : schema.Named names) (targets : List String) :
    ∀ p ∈ explicitTargets schema targets, p.Named names := by
  refine List.foldlRecOn (motive := fun paths => ∀ p ∈ paths, Path.Named names p) targets _
    (by simp) fun paths hpaths target _ => ?_
  split
  next path hpath =>
    split
    · exact named_of_mem_addPath hpaths (hnamed.path hpath)
    · exact hpaths
  next => exact hpaths

theorem named_of_mem_discover (hnamed : schema.Named names) {depth : Nat} {before : List Field}
    (hbefore : ∀ hop ∈ before, names hop.name) :
    ∀ p ∈ discover schema before depth, p.Named names := by
  induction depth generalizing schema before with
  | zero =>
      intro p hp
      obtain ⟨f, hf, hp⟩ := List.mem_filterMap.mp hp
      split at hp
      · cases hp
        exact List.forall_mem_append.mpr
          ⟨hbefore, List.forall_mem_singleton.mpr (hnamed.type f hf)⟩
      · cases hp
  | succ depth ih =>
      intro p hp
      obtain ⟨f, hf, hp⟩ := List.mem_flatMap.mp hp
      have hhops : ∀ hop ∈ before ++ [f], names hop.name := List.forall_mem_append.mpr
        ⟨hbefore, List.forall_mem_singleton.mpr (hnamed.type f hf)⟩
      split at hp
      · rw [List.mem_singleton.mp hp]
        exact hhops
      · split at hp
        next inner hinner => exact ih (hnamed.nested hinner) hhops p hp
        next => cases hp

theorem named_of_mem_targets (hnamed : schema.Named names) (targets? : Option (List String))
    (depth : Nat) : ∀ p ∈ targets schema targets? depth, p.Named names := by
  unfold targets
  split
  · exact named_of_mem_explicitTargets hnamed _
  · exact named_of_mem_discover hnamed (by simp)

/-- The search of a path is normal wherever the path is followed. -/
theorem normal_atPath {setting : Setting} {path : Path} (hpath : path.Named names)
    (keyword : String) :
    (Filter.atPath path .contains (.text keyword) true).Normal names setting := by
  obtain ⟨before, leaf⟩ := path
  obtain ⟨hbefore, hleaf⟩ := List.forall_mem_append.mp hpath
  replace hleaf : names leaf.name := hleaf leaf (by simp)
  have hposed : ∀ (setting : Setting) (field : Option String), (∀ name ∈ field, names name) →
      Clause.Posed names setting ⟨field, .contains, .text keyword, true⟩ :=
    fun _ _ hname => ⟨hname, .text, false, .text keyword, fun _ => rfl, Or.inr rfl⟩
  clear hpath
  induction before generalizing setting with
  | nil =>
      change (if leaf.collection then Filter.some leaf.name _ else Filter.clause _).Normal names
        setting
      split
      · exact .some hleaf (.clause (hposed _ none (by simp)))
      · exact .clause (hposed _ (some leaf.name) (by simpa using hleaf))
  | cons hop before ih =>
      obtain ⟨hhop, hbefore⟩ := List.forall_mem_cons.mp hbefore
      change (if hop.collection then Filter.some hop.name _ else Filter.scope hop.name _).Normal
        names setting
      split
      · exact .some hhop (ih hbefore)
      · exact .scope hhop (ih hbefore)

/-- **A search compiles to a filter in normal form.** -/
theorem normal_of_compile {keyword : String} {targets? : Option (List String)} {depth : Int}
    {f : Filter} (h : compile schema keyword targets? depth = .ok f) (hnamed : schema.Named names)
    (setting : Setting) : f.Normal names setting := by
  rw [compile] at h
  split at h
  · cases h
  · have htargets := named_of_mem_targets hnamed targets? depth.toNat
    split at h
    next =>
      cases h
      exact .const false
    next paths hsome =>
      cases h
      refine Filter.normal_any (by simpa using hsome) fun f hf => ?_
      obtain ⟨path, hpath, rfl⟩ := List.mem_map.mp hf
      exact normal_atPath (htargets path hpath) keyword

end Search

end RecordQuery
