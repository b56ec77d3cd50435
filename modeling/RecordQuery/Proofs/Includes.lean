import RecordQuery.Proofs.Grouping
import RecordQuery.Proofs.ReachableText

/-!
# Includes

The includes of a specification are canonical texts of paths, without repetitions, however it was
put together. A nested include is found below the include that was named last, even if naming that
one added nothing. A join has the includes of its left side and then the new ones of its right side.
-/

namespace RecordQuery

/-! ### Paths below paths -/

theorem Text.split_append (separator : Char) (s t : String) :
    split separator (s ++ String.ofList [separator] ++ t) =
      split separator s ++ split separator t := by
  simp only [split, String.toList_append, String.toList_ofList, List.append_assoc,
    List.singleton_append, splitChars_append_cons, List.map_append]

namespace Schema

variable {schema : Schema} {parent : Path}

/-- The text is that of the path which it resolves to. -/
def IsCanonical (schema : Schema) (text : String) : Prop :=
  ∃ path, schema.resolve? text = some path ∧ path.text = text

/-- The path that a text spells in the records at another path. -/
def below? (schema : Schema) (parent : Path) (text : String) : Option Path :=
  (schema.nested? parent.leaf).bind fun inner =>
    (inner.resolve? text).map fun rest => ⟨parent.hops ++ rest.before, rest.leaf⟩

theorem follow?_append {names rest : List String} (hrest : rest ≠ [])
    (h : schema.follow? names = some parent) :
    schema.follow? (names ++ rest) = (schema.nested? parent.leaf).bind fun inner =>
      (inner.follow? rest).map fun path => ⟨parent.hops ++ path.before, path.leaf⟩ := by
  induction names generalizing schema parent with
  | nil => cases h
  | cons name names ih =>
      cases names with
      | nil =>
          obtain ⟨f, hf, rfl⟩ := Option.map_eq_some_iff.mp h
          exact follow?_step hf hrest
      | cons next names =>
          obtain ⟨f, inner, path, hf, hinner, hpath, rfl⟩ := follow?_cons h
          rw [List.cons_append, follow?_step hf (by simp), hinner, Option.bind_some, ih hpath,
            nested?_congr (types_of_nested? hinner)]
          cases schema.nested? path.leaf with
          | none => rfl
          | some last =>
              rw [Option.bind_some, Option.bind_some, Option.map_map]
              rfl

/-- **A text behind the text of a path** spells what it spells below the path. -/
theorem resolve?_below (h : schema.resolve? parent.text = some parent) (text : String) :
    schema.resolve? (parent.text ++ "." ++ text) = schema.below? parent text := by
  have hmore : (Text.split '.' text).map Text.trim ≠ [] := by
    simpa [Text.split] using Text.splitChars_ne_nil '.' text.toList
  have hsplit : Text.split '.' (parent.text ++ "." ++ text) =
      Text.split '.' parent.text ++ Text.split '.' text := Text.split_append '.' parent.text text
  rw [resolve?, hsplit, List.map_append]
  exact follow?_append hmore h

end Schema

/-! ### Added includes -/

namespace Specification

variable {includes paths : List String}

theorem nodup_addInclude (h : includes.Nodup) (path : String) :
    (addInclude includes path).Nodup := by
  by_cases hmem : path ∈ includes
  · rwa [addInclude_of_mem hmem]
  · rw [addInclude_of_notMem hmem]
    exact List.nodup_append'.mpr ⟨h, List.nodup_singleton path, by simpa using hmem⟩

theorem prefix_addInclude (includes : List String) (path : String) :
    includes <+: addInclude includes path := by
  by_cases hmem : path ∈ includes
  · rw [addInclude_of_mem hmem]
  · rw [addInclude_of_notMem hmem]
    exact List.prefix_append _ _

/-- Different paths are added behind the others, but for those that are there. -/
theorem foldl_addInclude_of_nodup (h : paths.Nodup) :
    paths.foldl addInclude includes = includes ++ paths.filter (· ∉ includes) := by
  induction paths generalizing includes with
  | nil => simp
  | cons path paths ih =>
      obtain ⟨hpath, hpaths⟩ := List.nodup_cons.mp h
      rw [List.foldl_cons, ih hpaths]
      by_cases hmem : path ∈ includes
      · rw [addInclude_of_mem hmem, List.filter_cons_of_neg (by simpa using hmem)]
      · have hothers : paths.filter (· ∉ includes ++ [path]) = paths.filter (· ∉ includes) := by
          refine List.filter_congr fun other hother => ?_
          have hne : other ≠ path := fun heq => hpath (heq ▸ hother)
          simp [hne]
        rw [addInclude_of_notMem hmem, hothers, List.filter_cons_of_pos (by simpa using hmem),
          List.append_assoc, List.singleton_append]

theorem nodup_foldl_addInclude (hincludes : includes.Nodup) (paths : List String) :
    (paths.foldl addInclude includes).Nodup :=
  List.foldlRecOn (motive := List.Nodup) paths _ hincludes fun _ h path _ =>
    nodup_addInclude h path

end Specification

/-! ### Steps -/

namespace Builder

/-- The include that is named last, if `last` is so before the step. -/
def Step.lastNamed (schema : Schema) (last : Option Path) : Step → Option Path
  | load text => schema.resolve? text
  | loadNested text => last.bind fun parent => schema.below? parent text
  | _ => last

/-- What a builder has of includes. -/
def includeState (builder : Builder) : List String × Option String :=
  (builder.spec.includes, builder.lastInclude)

section Frame

variable {schema : Schema} {builder next : Builder}

theorem includeState_filter {document : Json} (h : builder.filter schema document = .ok next) :
    next.includeState = builder.includeState := by
  obtain ⟨f, -, hnext⟩ := bind_eq_ok.mp h
  cases hnext
  rfl

theorem includeState_search {keywords : SearchRequest}
    (h : builder.search schema keywords = .ok next) :
    next.includeState = builder.includeState := by
  rw [Builder.search] at h
  split at h
  · cases h
    rfl
  · obtain ⟨f, -, hnext⟩ := bind_eq_ok.mp h
    cases hnext
    rfl

theorem includeState_sort {text : String} {tieBreaker : Option String}
    (h : builder.sort schema text tieBreaker = .ok next) :
    next.includeState = builder.includeState := by
  obtain ⟨order, -, hnext⟩ := bind_eq_ok.mp h
  cases hnext
  rfl

theorem includeState_optional {α : Type} {a? : Option α} {apply : α → Except QueryError Builder}
    (happly : ∀ a, apply a = .ok next → next.includeState = builder.includeState)
    (h : a?.elim (.ok builder) apply = .ok next) : next.includeState = builder.includeState := by
  cases a? with
  | none =>
      cases h
      rfl
  | some a => exact happly a h

theorem includeState_request {query : QueryRequest} {tieBreaker : Option String}
    (h : builder.request schema query tieBreaker = .ok next) :
    next.includeState = builder.includeState := by
  rw [request_eq] at h
  obtain ⟨filtered, hfiltered, h⟩ := bind_eq_ok.mp h
  obtain ⟨searched, hsearched, hsorted⟩ := bind_eq_ok.mp h
  replace hfiltered := includeState_optional (fun _ => includeState_filter) hfiltered
  replace hsearched := includeState_optional (fun _ => includeState_search) hsearched
  split at hsorted
  · rw [includeState_sort hsorted, hsearched, hfiltered]
  · cases hsorted
    rw [hsearched, hfiltered]

end Frame

/-- The builder knows the include that was named last, and its includes are canonical and differ. -/
structure Keeps (schema : Schema) (builder : Builder) (last : Option Path) : Prop where
  lastInclude : builder.lastInclude = last.map Path.text
  resolved : ∀ path ∈ last, schema.resolve? path.text = some path
  nodup : builder.spec.includes.Nodup
  canonical : ∀ text ∈ builder.spec.includes, schema.IsCanonical text

variable {schema : Schema} {builder next : Builder} {last : Option Path}

theorem Keeps.empty : Keeps schema {} none :=
  ⟨rfl, by simp, .nil, by simp⟩

theorem Keeps.of_includeState (h : builder.Keeps schema last)
    (hstate : next.includeState = builder.includeState) :
    next.Keeps schema last ∧ builder.spec.includes <+: next.spec.includes := by
  obtain ⟨hincludes, hlast⟩ := Prod.mk.inj hstate
  rw [hincludes]
  refine ⟨⟨hlast.trans h.lastInclude, h.resolved, ?_, ?_⟩, List.prefix_refl _⟩
  · rw [hincludes]
    exact h.nodup
  · rw [hincludes]
    exact h.canonical

/-- The path of an include is named and added. -/
theorem Keeps.load (h : builder.Keeps schema last) {text : String}
    (hrun : builder.withInclude schema text = .ok next) :
    ∃ path, schema.resolve? text = some path ∧ next = builder.pushInclude path.text ∧
      next.Keeps schema (some path) ∧ builder.spec.includes <+: next.spec.includes := by
  obtain ⟨resolved, hresolved, hnext⟩ := bind_eq_ok.mp hrun
  cases hnext
  rw [resolveInclude] at hresolved
  split at hresolved
  next path hpath =>
    cases hresolved
    have hself : schema.resolve? path.text = some path := Schema.resolve?_text hpath
    refine ⟨path, hpath, rfl, ⟨rfl, by simpa using hself, ?_, ?_⟩, ?_⟩
    · exact Specification.nodup_addInclude h.nodup path.text
    · exact Specification.forall_mem_addInclude h.canonical ⟨path, hself, rfl⟩
    · exact Specification.prefix_addInclude _ path.text
  next => cases hresolved

theorem Keeps.loadNested (h : builder.Keeps schema last) {text : String}
    (hrun : builder.withNestedInclude schema text = .ok next) :
    ∃ parent path, last = some parent ∧ schema.below? parent text = some path ∧
      next = builder.pushInclude path.text ∧ next.Keeps schema (some path) ∧
      builder.spec.includes <+: next.spec.includes := by
  rw [withNestedInclude, h.lastInclude] at hrun
  cases hlast : last with
  | none =>
      rw [hlast] at hrun
      cases hrun
  | some parent =>
      rw [hlast] at hrun
      obtain ⟨path, hpath, hnext⟩ := h.load hrun
      rw [Schema.resolve?_below (h.resolved parent hlast)] at hpath
      exact ⟨parent, path, rfl, hpath, hnext⟩

/-- **One call on a builder** keeps its includes canonical and different, and takes none away. -/
theorem Keeps.step (h : builder.Keeps schema last) {step : Step}
    (hrun : step.run schema builder = .ok next) :
    next.Keeps schema (step.lastNamed schema last) ∧
      builder.spec.includes <+: next.spec.includes := by
  cases step with
  | load text =>
      obtain ⟨path, hpath, -, hkeeps⟩ := h.load hrun
      rwa [Step.lastNamed, hpath]
  | loadNested text =>
      obtain ⟨parent, path, hlast, hpath, -, hkeeps⟩ := h.loadNested hrun
      rwa [Step.lastNamed, hlast, Option.bind_some, hpath]
  | filter document => exact h.of_includeState (includeState_filter hrun)
  | search keywords => exact h.of_includeState (includeState_search hrun)
  | sort text tieBreaker => exact h.of_includeState (includeState_sort hrun)
  | request query tieBreaker => exact h.of_includeState (includeState_request hrun)
  | filterNode _ | combine _ _ | searchDepth _ | sortOrder _ | noTracking | splitQuery | cache _ =>
      cases hrun
      exact h.of_includeState rfl

/-- **A run of calls** keeps its includes canonical and different, and takes none away. -/
theorem Keeps.runSteps {steps : List Step} (h : builder.Keeps schema last)
    (hrun : Builder.runSteps schema builder steps = .ok next) :
    next.Keeps schema (steps.foldl (Step.lastNamed schema) last) ∧
      builder.spec.includes <+: next.spec.includes := by
  induction steps generalizing builder last with
  | nil =>
      cases hrun
      exact ⟨h, List.prefix_refl _⟩
  | cons step steps ih =>
      obtain ⟨between, hstep, hrest⟩ := bind_eq_ok.mp hrun
      obtain ⟨hbetween, hfirst⟩ := h.step hstep
      obtain ⟨hnext, hothers⟩ := ih hbetween hrest
      exact ⟨hnext, hfirst.trans hothers⟩

end Builder

/-! ### Joins -/

theorem Assembly.includes {schema : Schema} {assembly : Assembly} {spec : Specification}
    (h : assembly.specification schema = .ok spec) :
    spec.includes.Nodup ∧ ∀ text ∈ spec.includes, schema.IsCanonical text := by
  induction assembly generalizing spec with
  | built steps =>
      obtain ⟨builder, hrun, rfl⟩ := map_eq_ok.mp h
      have hkeeps := (Builder.Keeps.empty.runSteps hrun).1
      exact ⟨hkeeps.nodup, hkeeps.canonical⟩
  | and a b iha ihb | or a b iha ihb =>
      obtain ⟨left, hleft, h⟩ := bind_eq_ok.mp h
      obtain ⟨right, hright, h⟩ := bind_eq_ok.mp h
      cases h
      refine ⟨Specification.nodup_foldl_addInclude (iha hleft).1 _, fun text htext => ?_⟩
      rcases Specification.mem_foldl_addInclude.mp htext with htext | htext
      · exact (iha hleft).2 text htext
      · exact (ihb hright).2 text htext

/-- **Includes are canonical and differ**, in whatever was put together. A nested include is found
below the include that the calls before it named last, it is added unless it is there, and no later
call takes it away. A join has the includes of its left side and the new ones of its right side, in
their order. -/
theorem Assembly.includes_recorded (schema : Schema) :
    (∀ assembly spec, specification schema assembly = .ok spec →
      spec.includes.Nodup ∧ ∀ text ∈ spec.includes, schema.IsCanonical text) ∧
    (∀ steps builder text next, Builder.runSteps schema {} steps = .ok builder →
      Builder.Step.run schema builder (.loadNested text) = .ok next →
      ∃ parent path, steps.foldl (Builder.Step.lastNamed schema) none = some parent ∧
        schema.below? parent text = some path ∧
        next.spec.includes = (if path.text ∈ builder.spec.includes then builder.spec.includes
          else builder.spec.includes ++ [path.text]) ∧
        ∀ others last, Builder.runSteps schema next others = .ok last →
          next.spec.includes <+: last.spec.includes) ∧
    ∀ left right a b, specification schema left = .ok a → specification schema right = .ok b →
      (a.and b).includes = a.includes ++ b.includes.filter (· ∉ a.includes) ∧
      (a.or b).includes = a.includes ++ b.includes.filter (· ∉ a.includes) := by
  refine ⟨fun _ _ => Assembly.includes, ?_, ?_⟩
  · intro steps builder text next hsteps hrun
    have hkeeps := (Builder.Keeps.empty.runSteps hsteps).1
    obtain ⟨parent, path, hparent, hpath, hnext, hnextKeeps, -⟩ := hkeeps.loadNested hrun
    refine ⟨parent, path, hparent, hpath, ?_, fun others last hothers => ?_⟩
    · rw [hnext]
      by_cases hmem : path.text ∈ builder.spec.includes
      · rw [if_pos hmem]
        exact Specification.addInclude_of_mem hmem
      · rw [if_neg hmem]
        exact Specification.addInclude_of_notMem hmem
    · exact (hnextKeeps.runSteps hothers).2
  · intro left right a b _ hb
    have hmerge : b.includes.foldl Specification.addInclude a.includes =
        a.includes ++ b.includes.filter (· ∉ a.includes) :=
      Specification.foldl_addInclude_of_nodup (Assembly.includes hb).1
    exact ⟨hmerge, hmerge⟩

namespace Pet

/-- The owners of pets are named again, so their pets are below them and not below the pets named
in between. -/
def namedAgain : List Builder.Step :=
  [.load "Pets . Owner", .load "pets", .noTracking, .load "PETS.owner"]

theorem includes_below_owner :
    ∃ builder next parent path other,
      Builder.runSteps people {} namedAgain = .ok builder ∧
      Builder.Step.run people builder (.loadNested " Pets") = .ok next ∧
      namedAgain.foldl (Builder.Step.lastNamed people) none = some parent ∧
      parent.text = "pets.owner" ∧ people.below? parent " Pets" = some path ∧
      next.spec.includes = ["pets.owner", "pets", path.text] ∧
      (Assembly.built namedAgain).specification people = .ok builder.build ∧
      builder.build.includes.Nodup ∧
      (Assembly.built [.load "aliases", .load "Pets"]).specification people = .ok other ∧
      (builder.build.or other).includes = ["pets.owner", "pets", "aliases"] := by
  have hnested : ((Builder.runSteps people {} namedAgain).bind fun builder =>
      Builder.Step.run people builder (.loadNested " Pets")).toBool = true := by decide +kernel
  have hsecond : ((Assembly.built [.load "aliases", .load "Pets"]).specification people).toBool =
      true := by decide +kernel
  have hincludes : ((Builder.runSteps people {} namedAgain).toOption.map fun builder =>
      builder.spec.includes) = some ["pets.owner", "pets"] := by decide +kernel
  have hothers : (((Assembly.built [.load "aliases", .load "Pets"]).specification
      people).toOption.map Specification.includes) = some ["aliases", "pets"] := by decide +kernel
  have hparents : (namedAgain.foldl (Builder.Step.lastNamed people) none).map Path.text =
      some "pets.owner" := by decide +kernel
  have hpaths : ((namedAgain.foldl (Builder.Step.lastNamed people) none).bind fun parent =>
      people.below? parent " Pets").map Path.text = some "pets.owner.pets" := by decide +kernel
  obtain ⟨next, hnext⟩ := toBool_eq_true.mp hnested
  obtain ⟨builder, hbuilder, hrun⟩ := bind_eq_ok.mp hnext
  obtain ⟨other, hother⟩ := toBool_eq_true.mp hsecond
  have hbuilt : (Assembly.built namedAgain).specification people = .ok builder.build :=
    map_eq_ok.mpr ⟨builder, hbuilder, rfl⟩
  obtain ⟨hall, hrecorded, hjoined⟩ := Assembly.includes_recorded people
  obtain ⟨parent, path, hparent, hpath, hadded, -⟩ := hrecorded _ builder _ next hbuilder hrun
  have hjoin := (hjoined _ _ _ _ hbuilt hother).2
  rw [hbuilder] at hincludes
  rw [hother] at hothers
  rw [hparent] at hparents hpaths
  rw [Option.bind_some, hpath] at hpaths
  replace hincludes : builder.spec.includes = ["pets.owner", "pets"] := Option.some.inj hincludes
  replace hothers : other.includes = ["aliases", "pets"] := Option.some.inj hothers
  replace hpaths : path.text = "pets.owner.pets" := Option.some.inj hpaths
  refine ⟨builder, next, parent, path, other, hbuilder, hrun, hparent, Option.some.inj hparents,
    hpath, ?_, hbuilt, (hall _ _ hbuilt).1, hother, ?_⟩
  · rw [hadded, hincludes, hpaths]
    rfl
  · rw [hjoin, hothers]
    change builder.spec.includes ++ _ = _
    rw [Builder.build, hincludes]
    rfl

end Pet

end RecordQuery
