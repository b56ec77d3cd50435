import RecordQuery.Proofs.Boundary
import RecordQuery.Proofs.FilterMeaning
import RecordQuery.Proofs.Listing
import RecordQuery.Specification

/-!
# Composed specifications

The calls on a builder spell a formula: the first criterion stands alone and each later one is
joined to all before it. Joining specifications joins their formulas, where a specification without
criteria counts as true. However the filters are flattened on the way, a composed specification
accepts the records of which its formula holds.
-/

namespace RecordQuery

/-! ### Steps -/

/-- A call on a builder. -/
inductive Builder.Step where
  | filter (document : Json)
  | filterNode (f : Filter)
  | combine (f : Filter) (combinator : Combinator)
  | searchDepth (depth : Int)
  | search (request : SearchRequest)
  | sort (text : String) (tieBreaker : Option String)
  | sortOrder (order : SortOrder)
  | load (path : String)
  | loadNested (path : String)
  | noTracking
  | splitQuery
  | cache (key : String)
  | request (request : QueryRequest) (tieBreaker : Option String)

namespace Builder

def Step.run (schema : Schema) (builder : Builder) : Step → Except QueryError Builder
  | .filter document => builder.filter schema document
  | .filterNode f => .ok (builder.filterNode f)
  | .combine f combinator => .ok (builder.combine f combinator)
  | .searchDepth depth => .ok (builder.withSearchDepth depth)
  | .search keywords => builder.search schema keywords
  | .sort text tieBreaker => builder.sort schema text tieBreaker
  | .sortOrder order => .ok (builder.sortOrder order)
  | .load path => builder.withInclude schema path
  | .loadNested path => builder.withNestedInclude schema path
  | .noTracking => .ok builder.noTracking
  | .splitQuery => .ok builder.splitQuery
  | .cache key => .ok (builder.cache key)
  | .request query tieBreaker => builder.request schema query tieBreaker

def runSteps (schema : Schema) (builder : Builder) : List Step → Except QueryError Builder
  | [] => .ok builder
  | step :: steps => do
    let builder ← step.run schema builder
    runSteps schema builder steps

end Builder

/-- Specifications from builders, joined by `and` and `or`. -/
inductive Assembly where
  | built (steps : List Builder.Step)
  | and (a b : Assembly)
  | or (a b : Assembly)

def Assembly.specification (schema : Schema) : Assembly → Except QueryError Specification
  | built steps => (Builder.runSteps schema {} steps).map Builder.build
  | and a b => do
    let left ← a.specification schema
    let right ← b.specification schema
    .ok (left.and right)
  | or a b => do
    let left ← a.specification schema
    let right ← b.specification schema
    .ok (left.or right)

/-! ### Formulas -/

/-- What a composition says, with nothing flattened or left out. -/
inductive Formula where
  | top
  | criterion (f : Filter)
  | and (a b : Formula)
  | or (a b : Formula)

namespace Formula

def holds (r : Record) : Formula → Bool
  | top => true
  | criterion f => f.accepts r
  | and a b => a.holds r && b.holds r
  | or a b => a.holds r || b.holds r

/-- Joins a criterion to those before it. The first one stands alone. -/
def extend : Option Formula → Combinator × Filter → Option Formula
  | none, (_, f) => some (criterion f)
  | some formula, (.and, f) => some (formula.and (criterion f))
  | some formula, (.or, f) => some (formula.or (criterion f))

end Formula

namespace Builder

def documentCriteria (schema : Schema) (document : Json) :
    Except QueryError (List (Combinator × Filter)) :=
  (Filter.compile schema document).map fun f => [(.and, f)]

/-- The criterion of a search; none for a keyword that is absent or has blank characters only. -/
def searchCriteria (schema : Schema) (depth : Int) (request : SearchRequest) :
    Except QueryError (List (Combinator × Filter)) :=
  match request.keyword with
  | none => .ok []
  | some keyword =>
    if ∀ c ∈ keyword.toList, Text.isBlankChar c = true then .ok []
    else (Search.compile schema keyword request.targets (request.depth.getD depth)).map fun f =>
      [(.and, f)]

namespace Step

/-- The criteria that a step adds, with how each is joined to those before it. -/
def criteria (schema : Schema) (depth : Int) : Step → Except QueryError (List (Combinator × Filter))
  | filter document => documentCriteria schema document
  | filterNode f => .ok [(.and, f)]
  | combine f combinator => .ok [(combinator, f)]
  | search keywords => searchCriteria schema depth keywords
  | request query _ => do
    let documents ← query.filter.elim (.ok []) (documentCriteria schema)
    let searches ← query.search.elim (.ok []) (searchCriteria schema depth)
    .ok (documents ++ searches)
  | _ => .ok []

/-- The depth of the searches after a step. -/
def depthAfter (depth : Int) : Step → Int
  | searchDepth depth => depth
  | _ => depth

end Step

/-- The formula of the criteria that steps add to those before. -/
def spell (schema : Schema) (depth : Int) (formula? : Option Formula) :
    List Step → Except QueryError (Option Formula)
  | [] => .ok formula?
  | step :: steps => do
    let criteria ← step.criteria schema depth
    spell schema (step.depthAfter depth) (criteria.foldl Formula.extend formula?) steps

end Builder

def Assembly.formula (schema : Schema) : Assembly → Except QueryError Formula
  | built steps => (Builder.spell schema 0 none steps).map fun formula? => formula?.getD .top
  | and a b => do
    let left ← a.formula schema
    let right ← b.formula schema
    .ok (left.and right)
  | or a b => do
    let left ← a.formula schema
    let right ← b.formula schema
    .ok (left.or right)

/-! ### A step -/

namespace Builder

/-- The builder has the depth and accepts what the formula says, and has criteria only where there
is a formula. -/
structure Spells (builder : Builder) (depth : Int) (formula? : Option Formula) : Prop where
  depth : builder.searchDepth = depth
  criteria : Option.Rel (fun f formula => ∀ r, f.accepts r = formula.holds r)
    builder.spec.criteria formula?

variable {schema : Schema} {builder next : Builder} {depth : Int} {formula? : Option Formula}

theorem Spells.empty : Spells {} 0 none :=
  ⟨rfl, .none⟩

theorem Spells.combine (h : builder.Spells depth formula?) (f : Filter) (combinator : Combinator) :
    (builder.combine f combinator).Spells depth (Formula.extend formula? (combinator, f)) := by
  refine ⟨h.depth, ?_⟩
  obtain ⟨spec, lastInclude, searchDepth⟩ := builder
  obtain ⟨criteria, _⟩ := spec
  cases h.criteria with
  | none => exact .some fun r => rfl
  | @some current formula hcurrent =>
      cases combinator with
      | and =>
          refine .some fun r => ?_
          rw [Formula.holds, ← hcurrent]
          exact Filter.holds_and _ current f
      | or =>
          refine .some fun r => ?_
          rw [Formula.holds, ← hcurrent]
          exact Filter.holds_or _ current f

theorem Spells.of_frame (h : builder.Spells depth formula?)
    (hdepth : next.searchDepth = builder.searchDepth)
    (hcriteria : next.spec.criteria = builder.spec.criteria) : next.Spells depth formula? := by
  refine ⟨hdepth.trans h.depth, ?_⟩
  rw [hcriteria]
  exact h.criteria

theorem Spells.filter (h : builder.Spells depth formula?) {document : Json}
    (hrun : builder.filter schema document = .ok next) :
    ∃ criteria, documentCriteria schema document = .ok criteria ∧
      next.Spells depth (criteria.foldl Formula.extend formula?) := by
  obtain ⟨f, hf, hnext⟩ := bind_eq_ok.mp hrun
  cases hnext
  exact ⟨[(.and, f)], map_eq_ok.mpr ⟨f, hf, rfl⟩, h.combine f .and⟩

theorem Spells.search (h : builder.Spells depth formula?) {keywords : SearchRequest}
    (hrun : builder.search schema keywords = .ok next) :
    ∃ criteria, searchCriteria schema depth keywords = .ok criteria ∧
      next.Spells depth (criteria.foldl Formula.extend formula?) := by
  rw [Builder.search, h.depth, SearchRequest.effectiveKeyword] at hrun
  rw [searchCriteria]
  cases hkeyword : keywords.keyword with
  | none =>
      rw [hkeyword] at hrun
      cases hrun
      exact ⟨[], rfl, h⟩
  | some keyword =>
      rw [hkeyword, Option.filter_some] at hrun
      dsimp only
      split
      next hblank =>
        rw [Text.isBlank_iff.mpr hblank] at hrun
        cases hrun
        exact ⟨[], rfl, h⟩
      next hblank =>
        rw [Bool.eq_false_iff.mpr fun h => hblank (Text.isBlank_iff.mp h)] at hrun
        obtain ⟨f, hf, hnext⟩ := bind_eq_ok.mp hrun
        cases hnext
        exact ⟨[(.and, f)], map_eq_ok.mpr ⟨f, hf, rfl⟩, h.combine f .and⟩

theorem Spells.sort (h : builder.Spells depth formula?) {text : String} {tieBreaker : Option String}
    (hrun : builder.sort schema text tieBreaker = .ok next) : next.Spells depth formula? := by
  obtain ⟨order, -, hnext⟩ := bind_eq_ok.mp hrun
  cases hnext
  exact h.of_frame rfl rfl

theorem Spells.load (h : builder.Spells depth formula?) {path : String}
    (hrun : builder.withInclude schema path = .ok next) : next.Spells depth formula? := by
  obtain ⟨resolved, -, hnext⟩ := bind_eq_ok.mp hrun
  cases hnext
  exact h.of_frame rfl rfl

theorem Spells.loadNested (h : builder.Spells depth formula?) {path : String}
    (hrun : builder.withNestedInclude schema path = .ok next) : next.Spells depth formula? := by
  rw [withNestedInclude] at hrun
  split at hrun
  · cases hrun
  · exact h.load hrun

theorem Spells.optional {α : Type} (h : builder.Spells depth formula?)
    {apply : α → Except QueryError Builder}
    {criteriaOf : α → Except QueryError (List (Combinator × Filter))}
    (happly : ∀ a, apply a = .ok next → ∃ criteria, criteriaOf a = .ok criteria ∧
      next.Spells depth (criteria.foldl Formula.extend formula?))
    {a? : Option α} (hrun : a?.elim (.ok builder) apply = .ok next) :
    ∃ criteria, a?.elim (.ok []) criteriaOf = .ok criteria ∧
      next.Spells depth (criteria.foldl Formula.extend formula?) := by
  cases a? with
  | none =>
      cases hrun
      exact ⟨[], rfl, h⟩
  | some a => exact happly a hrun

/-- A request is its filter, its search and its sort, one after the other. -/
theorem request_eq (schema : Schema) (builder : Builder) (query : QueryRequest)
    (tieBreaker : Option String) :
    builder.request schema query tieBreaker = (do
      let filtered ← query.filter.elim (.ok builder) (builder.filter schema)
      let searched ← query.search.elim (.ok filtered) (filtered.search schema)
      if !Text.isBlank (query.sort.getD "") || tieBreaker.isSome then
        searched.sort schema (query.sort.getD "") tieBreaker
      else .ok searched) := by
  rw [Builder.request]
  cases query.filter <;> cases query.search <;> rfl

theorem Spells.request (h : builder.Spells depth formula?) {query : QueryRequest}
    {tieBreaker : Option String} (hrun : builder.request schema query tieBreaker = .ok next) :
    ∃ criteria, (Step.request query tieBreaker).criteria schema depth = .ok criteria ∧
      next.Spells depth (criteria.foldl Formula.extend formula?) := by
  rw [request_eq] at hrun
  obtain ⟨filtered, hfiltered, hrun⟩ := bind_eq_ok.mp hrun
  obtain ⟨searched, hsearched, hsorted⟩ := bind_eq_ok.mp hrun
  obtain ⟨documents, hdocuments, hspells⟩ := h.optional (fun _ => h.filter) hfiltered
  obtain ⟨searches, hsearches, hspells⟩ := hspells.optional (fun _ => hspells.search) hsearched
  refine ⟨documents ++ searches,
    bind_eq_ok.mpr ⟨documents, hdocuments, bind_eq_ok.mpr ⟨searches, hsearches, rfl⟩⟩, ?_⟩
  rw [List.foldl_append]
  split at hsorted
  · exact hspells.sort hsorted
  · cases hsorted
    exact hspells

/-- **One call on a builder** adds its criteria to the formula. -/
theorem Spells.step (h : builder.Spells depth formula?) {step : Step}
    (hrun : step.run schema builder = .ok next) :
    ∃ criteria, step.criteria schema depth = .ok criteria ∧
      next.Spells (step.depthAfter depth) (criteria.foldl Formula.extend formula?) := by
  cases step with
  | filter document => exact h.filter hrun
  | filterNode f =>
      cases hrun
      exact ⟨_, rfl, h.combine f .and⟩
  | combine f combinator =>
      cases hrun
      exact ⟨_, rfl, h.combine f combinator⟩
  | searchDepth depth =>
      cases hrun
      exact ⟨[], rfl, rfl, h.criteria⟩
  | search keywords => exact h.search hrun
  | sort text tieBreaker => exact ⟨[], rfl, h.sort hrun⟩
  | load path => exact ⟨[], rfl, h.load hrun⟩
  | loadNested path => exact ⟨[], rfl, h.loadNested hrun⟩
  | request query tieBreaker => exact h.request hrun
  | sortOrder _ | noTracking | splitQuery | cache _ =>
      cases hrun
      exact ⟨[], rfl, h.of_frame rfl rfl⟩

/-- **A run of calls** spells the formula of all its criteria. -/
theorem Spells.runSteps {steps : List Step} (h : builder.Spells depth formula?)
    (hrun : Builder.runSteps schema builder steps = .ok next) :
    ∃ spelled?, spell schema depth formula? steps = .ok spelled? ∧
      Option.Rel (fun f formula => ∀ r, f.accepts r = formula.holds r) next.spec.criteria
        spelled? := by
  induction steps generalizing builder depth formula? with
  | nil =>
      cases hrun
      exact ⟨formula?, rfl, h.criteria⟩
  | cons step steps ih =>
      obtain ⟨between, hstep, hrest⟩ := bind_eq_ok.mp hrun
      obtain ⟨criteria, hcriteria, hbetween⟩ := h.step hstep
      obtain ⟨spelled?, hspelled, hrel⟩ := ih hbetween hrest
      exact ⟨spelled?, bind_eq_ok.mpr ⟨criteria, hcriteria, hspelled⟩, hrel⟩

end Builder

/-! ### Joined specifications -/

namespace Specification

variable {a b : Specification} {r : Record}

theorem accepts_eq_of_rel {spec : Specification} {formula? : Option Formula}
    (h : Option.Rel (fun f formula => ∀ r, f.accepts r = formula.holds r) spec.criteria formula?)
    (r : Record) : spec.accepts r = (formula?.getD .top).holds r := by
  rw [accepts, predicate]
  generalize spec.criteria = criteria at h
  cases h with
  | none => rfl
  | some h => exact h r

/-- **`and` is conjunction**, with absent criteria as true. -/
theorem accepts_and : (a.and b).accepts r = (a.accepts r && b.accepts r) := by
  obtain ⟨left, _⟩ := a
  obtain ⟨right, _⟩ := b
  cases left with
  | none => cases right <;> rfl
  | some f =>
      cases right with
      | none => exact (Bool.and_true _).symm
      | some g => exact Filter.holds_and _ f g

/-- **`or` is disjunction**, with absent criteria as true. -/
theorem accepts_or : (a.or b).accepts r = (a.accepts r || b.accepts r) := by
  obtain ⟨left, _⟩ := a
  obtain ⟨right, _⟩ := b
  cases left with
  | none => cases right <;> rfl
  | some f =>
      cases right with
      | none => exact (Bool.or_true _).symm
      | some g => exact Filter.holds_or _ f g

end Specification

theorem Assembly.accepts_formula {schema : Schema} {assembly : Assembly} {spec : Specification}
    (h : assembly.specification schema = .ok spec) :
    ∃ formula, assembly.formula schema = .ok formula ∧ ∀ r, spec.accepts r = formula.holds r := by
  induction assembly generalizing spec with
  | built steps =>
      obtain ⟨builder, hrun, rfl⟩ := map_eq_ok.mp h
      obtain ⟨formula?, hspell, hrel⟩ := Builder.Spells.empty.runSteps hrun
      exact ⟨formula?.getD .top, map_eq_ok.mpr ⟨formula?, hspell, rfl⟩,
        Specification.accepts_eq_of_rel hrel⟩
  | and a b iha ihb =>
      obtain ⟨left, hleft, h⟩ := bind_eq_ok.mp h
      obtain ⟨right, hright, h⟩ := bind_eq_ok.mp h
      cases h
      obtain ⟨f, hf, hacceptsf⟩ := iha hleft
      obtain ⟨g, hg, hacceptsg⟩ := ihb hright
      refine ⟨f.and g, bind_eq_ok.mpr ⟨f, hf, bind_eq_ok.mpr ⟨g, hg, rfl⟩⟩, fun r => ?_⟩
      rw [Specification.accepts_and, hacceptsf, hacceptsg, Formula.holds]
  | or a b iha ihb =>
      obtain ⟨left, hleft, h⟩ := bind_eq_ok.mp h
      obtain ⟨right, hright, h⟩ := bind_eq_ok.mp h
      cases h
      obtain ⟨f, hf, hacceptsf⟩ := iha hleft
      obtain ⟨g, hg, hacceptsg⟩ := ihb hright
      refine ⟨f.or g, bind_eq_ok.mpr ⟨f, hf, bind_eq_ok.mpr ⟨g, hg, rfl⟩⟩, fun r => ?_⟩
      rw [Specification.accepts_or, hacceptsf, hacceptsg, Formula.holds]

theorem Filter.accepts_all (filters : List Filter) (r : Record) :
    (Filter.all filters).accepts r = (Filter.conj filters).accepts r := by
  rw [accepts, accepts, holds_all, holds, holdsAll_eq]

theorem Filter.accepts_any (filters : List Filter) (r : Record) :
    (Filter.any filters).accepts r = (Filter.disj filters).accepts r := by
  rw [accepts, accepts, holds_any, holds, holdsAny_eq]

/-- **Composition is Boolean.** Whatever succeeds in putting a specification together, it accepts
the records of which the formula holds that the steps and the joins spell. Flattening changes no
conjunction or disjunction of raw filters, however few they are and however they are nested. -/
theorem Assembly.composes_boolean {schema : Schema} {assembly : Assembly} {spec : Specification}
    (h : assembly.specification schema = .ok spec) :
    (∃ formula, assembly.formula schema = .ok formula ∧ ∀ r, spec.accepts r = formula.holds r) ∧
    ∀ (filters : List Filter) (r : Record),
      ((Filter.all filters).accepts r = (Filter.conj filters).accepts r ∧
        (Filter.conj filters).accepts r = filters.all fun f => f.accepts r) ∧
      ((Filter.any filters).accepts r = (Filter.disj filters).accepts r ∧
        (Filter.disj filters).accepts r = filters.any fun f => f.accepts r) :=
  ⟨accepts_formula h, fun filters r =>
    ⟨⟨Filter.accepts_all filters r, Filter.holdsAll_eq _ filters⟩,
      ⟨Filter.accepts_any filters r, Filter.holdsAny_eq _ filters⟩⟩⟩

namespace Diary

/-- Entries of a diary have a number and a text. -/
def schema : Schema := ⟨[], ⟨"Entry", [⟨"id", .number, false, false, none⟩,
  ⟨"text", .text, false, false, none⟩]⟩⟩

def entry (id : Int64) (text : String) : Record :=
  [("id", .number (.signed id)), ("text", .text text)]

def numbered (id : UInt32) : Json :=
  .object [("id", .number (.ofUInt32 id))]

/-- The first entry, or the second one if it tells of rain. The blank keyword adds nothing. -/
def assembly : Assembly :=
  .or (.built [.filterNode (.conj []), .filter (numbered 1)])
    (.and (.built [.search { keyword := some " " }, .search { keyword := some "rain" }])
      (.built [.filter (numbered 2), .combine (.disj []) .or]))

theorem assembly_boolean :
    ∃ spec formula, assembly.specification schema = .ok spec ∧
      assembly.formula schema = .ok formula ∧ (∀ r, spec.accepts r = formula.holds r) ∧
      formula.holds (entry 1 "Sunny") = true ∧ formula.holds (entry 2 "Heavy Rain") = true ∧
      formula.holds (entry 2 "Sunny") = false ∧ formula.holds (entry 3 "Heavy Rain") = false := by
  have hbuilt : (assembly.specification schema).toOption.map (fun spec =>
      [entry 1 "Sunny", entry 2 "Heavy Rain", entry 2 "Sunny", entry 3 "Heavy Rain"].map
        spec.accepts) = some [true, true, false, false] := by decide +kernel
  obtain ⟨spec, hspec, haccepted⟩ := toOption_map_eq_some.mp hbuilt
  obtain ⟨⟨formula, hformula, haccepts⟩, -⟩ := Assembly.composes_boolean hspec
  refine ⟨spec, formula, hspec, hformula, haccepts, ?_⟩
  simpa [haccepts] using haccepted

end Diary

end RecordQuery
