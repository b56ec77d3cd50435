import RecordQuery.Proofs.MemberFilter
import RecordQuery.Proofs.NormalFilter

/-!
# Spellings of one filter

A dotted key and nested documents, the members of an element with and without `$any`, a raw value and
the operator it stands for: each pair of spellings compiles to the same filter, or neither compiles.
What the compiler puts around the one spelling and not around the other are conjunctions of a single
filter, which vanish since compiled filters are in normal form.
-/

namespace RecordQuery

open RecordQuery.Filter (Target)

/-- Both documents compile to the same filter, or neither compiles. -/
def Schema.Agrees (schema : Schema) (a b : Json) : Prop :=
  (Filter.compile schema a).toOption = (Filter.compile schema b).toOption

section Outcome

variable {ε α β : Type}

theorem toOption_map (f : α → β) (x : Except ε α) : (x.map f).toOption = x.toOption.map f := by
  cases x <;> rfl

theorem toOption_bind (x : Except ε α) (k : α → Except ε β) :
    (x >>= k).toOption = x.toOption.bind fun a => (k a).toOption := by
  cases x <;> rfl

end Outcome

namespace Schema

variable {schema : Schema} {f : Field}

theorem nested?_eq_none (hf : f.Built schema.types) (hkind : f.kind ≠ .object) :
    schema.nested? f = none := by
  cases hnested : schema.nested? f with
  | none => rfl
  | some inner => exact absurd ((exists_nested?_iff hf).mp ⟨inner, hnested⟩) hkind

theorem follow?_step {name : String} {names : List String} (hf : schema.field? name = some f)
    (hmore : names ≠ []) :
    schema.follow? (name :: names) = (schema.nested? f).bind fun inner =>
      (inner.follow? names).map fun rest => ⟨f :: rest.before, rest.leaf⟩ := by
  obtain ⟨next, names, rfl⟩ := List.exists_cons_of_ne_nil hmore
  rw [follow?, hf]
  · change (schema.nested? f).bind _ = _
    refine congrArg _ (funext fun inner => ?_)
    cases inner.follow? (next :: names) <;> rfl
  · simp

end Schema

namespace Filter

/-! ### Conjunctions of a single filter -/

theorem Normal.all_singleton {names : String → Prop} {setting : Setting} {f : Filter}
    (h : f.Normal names setting) : all [f] = f := by
  rw [all, List.flatMap_singleton]
  cases h with
  | const b => cases b <;> rfl
  | @conj _ children hmany =>
      rcases children with _ | ⟨first, _ | ⟨second, rest⟩⟩
      · simp at hmany
      · simp at hmany
      · rfl
  | _ => rfl

theorem named_true (schema : Schema) : schema.Named fun _ => True :=
  ⟨fun _ _ => trivial, fun _ _ _ _ => trivial⟩

theorem map_all_compileMember (schema : Schema) (key : String) (value : Json) :
    (compileMember schema key value).map (fun f => all [f]) = compileMember schema key value := by
  cases h : compileMember schema key value with
  | error e => rfl
  | ok f => exact congrArg _ (normal_compileMember (named_true schema) key value h).all_singleton

theorem compileMembers_singleton (schema : Schema) (key : String) (value : Json) :
    (compileMembers schema [(key, value)]).map all = compileMember schema key value := by
  rw [← map_all_compileMember, compileMembers, compileMembers]
  cases compileMember schema key value <;> rfl

theorem compile_singleton (schema : Schema) (key : String) (value : Json) :
    compile schema (.object [(key, value)]) = compileMember schema key value := by
  rw [compile, compileMembers_singleton]

/-! ### What is asked of a leaf -/

section Leaf

variable {schema inner : Schema} {key : String} {target : Target}

theorem toOption_compileEntry (inner? : Option Schema) (text text' : String) (value : Json) :
    (compileEntry inner? target text key value).toOption =
      (compileEntry inner? target text' key value).toOption := by
  rw [compileEntry.eq_def, compileEntry.eq_def]
  split
  · cases inner? with
    | none => rfl
    | some inner => cases value <;> rfl
  · split
    · rfl
    · cases inner? <;> rfl

/-- The path of a collection is only told in errors. -/
theorem toOption_compileElements (inner? : Option Schema) (text text' : String)
    (entries : List (String × Json)) :
    (compileElements inner? target text entries).toOption =
      (compileElements inner? target text' entries).toOption := by
  induction entries with
  | nil => rfl
  | cons entry entries ih =>
      rw [compileElements_cons, compileElements_cons, toOption_bind, toOption_bind,
        toOption_compileEntry inner? text text']
      simp only [toOption_map, ih]

theorem toOption_compileLeaf {path path' : Path} (htypes : inner.types = schema.types)
    (hleaf : path'.leaf = path.leaf) (value : Json) :
    (compileLeaf inner path' value).toOption = (compileLeaf schema path value).toOption := by
  rw [compileLeaf.eq_def, compileLeaf.eq_def, hleaf, Schema.nested?_congr htypes]
  split
  · cases value with
    | object members =>
        dsimp only
        rw [toOption_map, toOption_map, toOption_compileElements _ path'.text path.text]
    | _ => rfl
  · split
    · cases schema.nested? path.leaf with
      | none => rfl
      | some nested => cases value <;> rfl
    · rfl

end Leaf

/-! ### Members of a document -/

section Member

variable {schema inner : Schema} {key : String} {f : Field}

theorem toOption_compileMember_join {combinator : Combinator}
    (hkey : Combinator.ofKey? key = Option.some combinator) {value : Json}
    (harray : ∀ items, value ≠ .array items) :
    (compileMember schema key value).toOption = none := by
  rw [compileMember_joined hkey]
  cases value with
  | array items => exact absurd rfl (harray items)
  | _ => rfl

theorem toOption_compileMember (hkey : startsWithDollar key = false) (value : Json) :
    (compileMember schema key value).toOption = (schema.resolve? key).bind fun path =>
      (compileLeaf schema path value).toOption.map (within path.before) := by
  cases hpath : schema.resolve? key with
  | none => rw [compileMember_unresolved hkey hpath]; rfl
  | some path => rw [compileMember_path hkey hpath, toOption_map]; rfl

/-- Without `$any`, the entries for the elements are the members of their records. -/
theorem toOption_compileElements_members {target : Target} {text : String}
    {members : List (String × Json)}
    (hplain : ∀ member ∈ members, Text.sameName member.1 anyKey = false) :
    (compileElements inner target text members).toOption =
      (compileMembers inner members).toOption := by
  induction members with
  | nil => rfl
  | cons member members ih =>
      obtain ⟨hany, hplain⟩ := List.forall_mem_cons.mp hplain
      have hfirst : (compileEntry inner target text member.1 member.2).toOption =
          (compileMember inner member.1 member.2).toOption := by
        rw [compileEntry.eq_def, if_neg (by simp [hany])]
        split
        next hreserved =>
          obtain ⟨hdollar, hkey⟩ := Bool.and_eq_true_iff.mp hreserved
          rw [compileMember_reserved (Option.isNone_iff_eq_none.mp hkey) hdollar]
          rfl
        next =>
          dsimp only
          rw [map_all_compileMember]
      rw [compileElements_cons, compileMembers, toOption_bind, toOption_bind, hfirst]
      refine congrArg _ (funext fun f => ?_)
      rw [toOption_map, ih hplain, toOption_bind]
      cases compileMembers inner members <;> rfl

/-- What is asked of one member of a nested record or of an element is asked of the member in its
own schema. -/
theorem toOption_compileLeaf_member (hf : f.Built schema.types) (hkey : startsWithDollar key = false)
    (value : Json) :
    (compileLeaf schema ⟨[], f⟩ (.object [(key, value)])).toOption =
      (schema.nested? f).bind fun inner =>
        (compileMember inner key value).toOption.map (within [f]) := by
  have hany : Text.sameName key anyKey = false := not_sameName_anyKey hkey
  have hmember : ∀ inner : Schema, (compileMember inner key value).toOption.map (within [f]) =
      (compileMembers inner [(key, value)]).toOption.map fun filters => within [f] (all filters) := by
    intro inner
    rw [← compileMembers_singleton, toOption_map, Option.map_map]
    rfl
  rw [compileLeaf.eq_def]
  by_cases hmany : f.collection = true
  · have hwithin : within [f] = some f.name := by
      funext inner
      simp [within, hmany]
    rw [if_pos hmany, toOption_map]
    cases schema.nested? f with
    | none => simp [compileElements_cons, compileEntry, hany, hkey, bind, Except.bind, Except.toOption]
    | some inner =>
        rw [Option.bind_some, hmember, hwithin, toOption_compileElements_members (by simpa using hany)]
  · have hwithin : within [f] = scope f.name := by
      funext inner
      simp [within, hmany]
    rw [if_neg hmany]
    by_cases hkind : f.kind = .object
    · obtain ⟨inner, hinner⟩ := (Schema.exists_nested?_iff hf).mpr hkind
      rw [if_pos hkind, hinner, Option.bind_some, hmember, hwithin]
      exact toOption_map _ _
    · have hnone : schema.nested? f = none := Schema.nested?_eq_none hf hkind
      rw [if_neg hkind, hnone, Target.compile, Target.compileMembers_cons, Target.compileRequirement,
        ofKey?_eq_none hkey, ofToken?_eq_none hkey]
      rfl

end Member

/-! ### Dotted keys -/

/-- A value under keys that are nested in one another. -/
def nest (keys : List String) (value : Json) : Json :=
  keys.foldr (fun key inner => .object [(key, inner)]) value

theorem startsWithDollar_of_split {key segment : String} {segments : List String}
    (hsplit : Text.split '.' key = segment :: segments) (h : startsWithDollar segment = false) :
    startsWithDollar key = false := by
  by_contra hdollar
  have hhead : key.toList.head? = Option.some '$' := by simpa [startsWithDollar] using hdollar
  obtain ⟨chars, hchars⟩ := List.head?_eq_some_iff.mp hhead
  rw [Text.split, hchars, Text.splitChars, if_neg (by decide)] at hsplit
  split at hsplit <;> cases hsplit <;> simp [startsWithDollar] at h

theorem resolve?_undotted_segment {schema : Schema} {segment : String} (h : '.' ∉ segment.toList) :
    schema.resolve? segment = schema.follow? [Text.trim segment] := by
  rw [Schema.resolve?, Text.split, Text.splitChars_of_notMem h]
  simp

/-- **Nested documents ask what their keys ask in a row**, wherever the keys lead. -/
theorem toOption_compileMember_nest {schema : Schema} (hbuilt : schema.Built) {segment : String}
    {segments : List String} (hdollar : ∀ part ∈ segment :: segments, startsWithDollar part = false)
    (hdot : ∀ part ∈ segment :: segments, '.' ∉ part.toList) (value : Json) :
    (compileMember schema segment (nest segments value)).toOption =
      (schema.follow? ((segment :: segments).map Text.trim)).bind fun path =>
        (compileLeaf schema path value).toOption.map (within path.before) := by
  induction segments generalizing schema segment with
  | nil =>
      rw [toOption_compileMember (hdollar segment (by simp)),
        resolve?_undotted_segment (hdot segment (by simp))]
      rfl
  | cons next segments ih =>
      rw [toOption_compileMember (hdollar segment (by simp)),
        resolve?_undotted_segment (hdot segment (by simp))]
      cases hf : schema.field? (Text.trim segment) with
      | none => simp [Schema.follow?, hf]
      | some f =>
          have hstep := toOption_compileLeaf_member (hbuilt.field hf) (hdollar next (by simp))
            (nest segments value)
          have hone : schema.follow? [Text.trim segment] = Option.some ⟨[], f⟩ := by
            rw [Schema.follow?, hf, Option.map_some]
          rw [hone, Option.bind_some, List.map_cons, Schema.follow?_step hf (by simp)]
          change (compileLeaf schema ⟨[], f⟩ (.object [(next, nest segments value)])).toOption.map
            (within []) = _
          rw [hstep]
          cases hnested : schema.nested? f with
          | none => rfl
          | some inner =>
              have hrest := ih (hbuilt.nested hnested) (List.forall_mem_cons.mp hdollar).2
                (List.forall_mem_cons.mp hdot).2
              rw [Option.bind_some, Option.bind_some, hrest]
              cases inner.follow? ((next :: segments).map Text.trim) with
              | none => rfl
              | some rest =>
                  have hsame : (compileLeaf inner rest value).toOption =
                      (compileLeaf schema ⟨f :: rest.before, rest.leaf⟩ value).toOption := by
                    apply toOption_compileLeaf (Schema.types_of_nested? hnested)
                    rfl
                  rw [Option.bind_some, hsame, Option.map_map, Option.map_map]
                  rfl

theorem agrees_nest {schema : Schema} (hbuilt : schema.Built) {key : String}
    (hdollar : ∀ segment ∈ Text.split '.' key, startsWithDollar segment = false) (value : Json) :
    schema.Agrees (.object [(key, value)]) (nest (Text.split '.' key) value) := by
  have hdot : ∀ part ∈ Text.split '.' key, '.' ∉ part.toList :=
    fun part hpart hmem => (Text.of_mem_split hpart hmem).2 rfl
  cases hsplit : Text.split '.' key with
  | nil => exact absurd (List.map_eq_nil_iff.mp hsplit) (Text.splitChars_ne_nil _ _)
  | cons segment segments =>
      rw [hsplit] at hdollar hdot
      have hkey := startsWithDollar_of_split hsplit (hdollar segment (by simp))
      change _ = (compile schema (.object [(segment, nest segments value)])).toOption
      rw [compile_singleton, compile_singleton, toOption_compileMember hkey, Schema.resolve?, hsplit,
        toOption_compileMember_nest hbuilt hdollar hdot]

/-! ### Elements with and without their key -/

section Key

variable {schema : Schema} {key : String}

/-- Values that ask the same of the leaf of a key are the same under the key. An array under a
combinator is left out: it joins documents. -/
theorem agrees_of_leaf {a b : Json}
    (hleaf : ∀ path, schema.resolve? key = Option.some path →
      (compileLeaf schema path a).toOption = (compileLeaf schema path b).toOption)
    (harray : ∀ items, a = .array items ∨ b = .array items → Combinator.ofKey? key = none) :
    schema.Agrees (.object [(key, a)]) (.object [(key, b)]) := by
  rw [Schema.Agrees, compile_singleton, compile_singleton]
  cases hkey : Combinator.ofKey? key with
  | some combinator =>
      have hnone : ∀ items, ¬ (a = .array items ∨ b = .array items) := by
        intro items hitems
        rw [harray items hitems] at hkey
        cases hkey
      rw [toOption_compileMember_join hkey fun items h => hnone items (Or.inl h),
        toOption_compileMember_join hkey fun items h => hnone items (Or.inr h)]
  | none =>
      cases hdollar : startsWithDollar key with
      | true => rw [compileMember_reserved hkey hdollar, compileMember_reserved hkey hdollar]
      | false =>
          rw [toOption_compileMember hdollar, toOption_compileMember hdollar]
          cases hpath : schema.resolve? key with
          | none => rfl
          | some path => rw [Option.bind_some, Option.bind_some, hleaf path hpath]

theorem agrees_any {path : Path} {inner : Schema} {token : String} {members : List (String × Json)}
    (hpath : schema.resolve? key = Option.some path) (hmany : path.leaf.collection = true)
    (hinner : schema.nested? path.leaf = Option.some inner)
    (htoken : Text.sameName token anyKey = true)
    (hplain : ∀ member ∈ members, Text.sameName member.1 anyKey = false) :
    schema.Agrees (.object [(key, .object [(token, .object members)])])
      (.object [(key, .object members)]) := by
  refine agrees_of_leaf (fun path' hpath' => ?_) (by rintro items (⟨⟨⟩⟩ | ⟨⟨⟩⟩))
  rw [hpath] at hpath'
  cases hpath'
  rw [compileLeaf.eq_def, compileLeaf.eq_def, if_pos hmany, if_pos hmany, hinner, toOption_map,
    toOption_map, toOption_compileElements_members hplain, compileElements_cons,
    compileEntry.eq_def, if_pos htoken]
  cases hmembers : compileMembers inner members with
  | error e => simp [hmembers, Except.map, bind, Except.bind, Except.toOption]
  | ok filters =>
      have hnormal := normal_all (normal_compileMembers (named_true inner) members hmembers)
      simp [hmembers, compileElements, Except.map, bind, Except.bind, Except.toOption,
        hnormal.all_singleton]

end Key

/-! ### Raw values -/

/-- A raw value, and the object of operators that it stands for. -/
inductive Shorthand : Json → Json → Prop
  | value {value : Json} (harray : ∀ items, value ≠ .array items)
      (hobject : ∀ members, value ≠ .object members) : Shorthand value (.object [("$eq", value)])
  | members {items : List Json} : Shorthand (.array items) (.object [("$in", .array items)])

namespace Target

variable {target : Target}

/-- An object of one comparison is the comparison. -/
theorem compile_comparison {token : String} {op : Op} {ignoreCase negated : Bool}
    (htoken : Operator.ofToken? token = Option.some (.compare op ignoreCase negated))
    (operand : Json) :
    target.compile (.object [(token, operand)]) =
      target.compileOperator (.compare op ignoreCase negated) operand := by
  rw [compile, compileMembers_cons, compileRequirement, ofKey?_of_ofToken? htoken, htoken]
  dsimp only
  rw [compileOperator.eq_def]
  dsimp only
  split
  · cases target.operand op operand <;> cases negated <;> rfl
  · rfl

theorem compile_shorthand (hkind : target.kind ≠ .object) {raw full : Json}
    (h : Shorthand raw full) : target.compile raw = target.compile full := by
  have heq : Op.eq.supports target.kind = true := by simpa [Op.supports] using hkind
  have hin : Op.isIn.supports target.kind = true := by simpa [Op.supports] using hkind
  cases h with
  | value harray hobject =>
      have htoken : Operator.ofToken? "$eq" = Option.some (.compare .eq false false) := by decide
      rw [compile_comparison htoken, compileOperator, if_pos heq,
        operand_eq_coerce (by decide) (by decide), compile]
      · cases coerce target.kind target.nullable raw <;> rfl
      · exact hobject
      · exact harray
  | @members items =>
      have htoken : Operator.ofToken? "$in" = Option.some (.compare .isIn false false) := by decide
      rw [compile_comparison htoken, compileOperator, if_pos hin, operand, compile]
      cases coerceAll target.kind target.nullable items <;> rfl

end Target

section Scalar

variable {schema : Schema} {key : String} {path : Path} {raw full : Json}

theorem agrees_scalar (hpath : schema.resolve? key = Option.some path)
    (hsingle : path.leaf.collection = false) (hkind : path.leaf.kind ≠ .object)
    (h : Shorthand raw full) (harray : ∀ items, raw = .array items → Combinator.ofKey? key = none) :
    schema.Agrees (.object [(key, raw)]) (.object [(key, full)]) := by
  refine agrees_of_leaf (fun path' hpath' => ?_) ?_
  · rw [hpath] at hpath'
    cases hpath'
    rw [compileLeaf_scalar hsingle hkind, compileLeaf_scalar hsingle hkind,
      Target.compile_shorthand hkind h]
  · rintro items (hraw | hfull)
    · exact harray items hraw
    · cases h <;> cases hfull

theorem agrees_element {token : String} (hpath : schema.resolve? key = Option.some path)
    (hbuilt : schema.Built) (hmany : path.leaf.collection = true) (hkind : path.leaf.kind ≠ .object)
    (htoken : Text.sameName token anyKey = true) (h : Shorthand raw full) :
    schema.Agrees (.object [(key, .object [(token, raw)])])
      (.object [(key, .object [(token, full)])]) := by
  refine agrees_of_leaf (fun path' hpath' => ?_) (by rintro items (⟨⟨⟩⟩ | ⟨⟨⟩⟩))
  rw [hpath] at hpath'
  cases hpath'
  have hentry : compileEntry none (.ofElement path.leaf) path.text token raw =
      compileEntry none (.ofElement path.leaf) path.text token full := by
    rw [compileEntry.eq_def, compileEntry.eq_def, if_pos htoken, if_pos htoken]
    exact Target.compile_shorthand hkind h
  rw [compileLeaf.eq_def, compileLeaf.eq_def, if_pos hmany, if_pos hmany,
    Schema.nested?_eq_none (hbuilt.leaf hpath) hkind]
  dsimp only
  rw [compileElements_cons, compileElements_cons, hentry]

end Scalar

/-! ### Spellings -/

/-- **Each pair of spellings compiles to the same filter, or neither does**: a dotted key and nested
documents; the members of an element with and without `$any`; a raw value or array and its operator,
for a scalar field, whatever its name, for a key that leads to it, and for the elements of a
collection. -/
theorem spellings_agree {schema : Schema} (hbuilt : schema.Built) :
    (∀ key value, (∀ segment ∈ Text.split '.' key, startsWithDollar segment = false) →
      schema.Agrees (.object [(key, value)]) (nest (Text.split '.' key) value)) ∧
    (∀ key path inner token members, schema.resolve? key = Option.some path →
      path.leaf.collection = true → schema.nested? path.leaf = Option.some inner →
      Text.sameName token anyKey = true →
      (∀ member ∈ members, Text.sameName member.1 anyKey = false) →
      schema.Agrees (.object [(key, .object [(token, .object members)])])
        (.object [(key, .object members)])) ∧
    ∀ raw full, Shorthand raw full →
      (∀ leaf : Field, leaf.kind ≠ .object →
        (Target.ofLeaf leaf).compile raw = (Target.ofLeaf leaf).compile full ∧
        (Target.ofElement leaf).compile raw = (Target.ofElement leaf).compile full) ∧
      ∀ key path, schema.resolve? key = Option.some path → path.leaf.kind ≠ .object →
        (path.leaf.collection = false →
          (∀ items, raw = .array items → Combinator.ofKey? key = none) →
          schema.Agrees (.object [(key, raw)]) (.object [(key, full)])) ∧
        (path.leaf.collection = true → ∀ token, Text.sameName token anyKey = true →
          schema.Agrees (.object [(key, .object [(token, raw)])])
            (.object [(key, .object [(token, full)])])) := by
  refine ⟨fun key value hdollar => agrees_nest hbuilt hdollar value, ?_, ?_⟩
  · intro key path inner token members hpath hmany hinner htoken hplain
    exact agrees_any hpath hmany hinner htoken hplain
  · intro raw full h
    refine ⟨fun leaf hkind => ⟨Target.compile_shorthand hkind h, Target.compile_shorthand hkind h⟩,
      fun key path hpath hkind => ⟨fun hsingle harray => ?_, fun hmany token htoken => ?_⟩⟩
    · exact agrees_scalar hpath hsingle hkind h harray
    · exact agrees_element hpath hbuilt hmany hkind htoken h

end Filter

/-- Reviewed by Eve, and tagged, each told in several ways that compile. -/
theorem Article.spellings :
    let eve := Json.object [("name", .text "Eve")]
    schema.Built ∧
      (Filter.compile schema (.object [("reviewers", eve)])).toBool = true ∧
      schema.Agrees (.object [("reviewers.name", .text "Eve")]) (.object [("reviewers", eve)]) ∧
      schema.Agrees (.object [("reviewers", .object [("$any", eve)])])
        (.object [("reviewers", eve)]) ∧
      (Filter.compile schema (.object [("tags", .object [("$any", .text "proof")])])).toBool = true ∧
      schema.Agrees (.object [("tags", .object [("$any", .text "proof")])])
        (.object [("tags", .object [("$any", .object [("$eq", .text "proof")])])]) := by
  intro eve
  have hsplit : Text.split '.' "reviewers.name" = ["reviewers", "name"] := by decide
  have hdotted := (Filter.spellings_agree built).1 "reviewers.name" (.text "Eve")
  rw [hsplit] at hdotted
  have hany := (Filter.spellings_agree built).2.1 "reviewers" ⟨[], reviewers⟩
    { schema with type := person } "$any" [("name", .text "Eve")]
  have hraw := ((Filter.spellings_agree built).2.2 (.text "proof") _ (.value (by simp) (by simp))).2
    "tags" ⟨[], tags⟩ (by decide) (by decide)
  exact ⟨built, by decide +kernel, hdotted (by decide),
    hany (by decide) rfl rfl (by decide) (by decide), by decide +kernel, hraw.2 rfl "$any" (by decide)⟩

end RecordQuery
