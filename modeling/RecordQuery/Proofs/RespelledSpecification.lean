import RecordQuery.Proofs.CacheKey
import RecordQuery.Proofs.RespelledDocument

/-!
# Respelled specifications

The documents, sorts, includes and targets that a specification is put together from may be spelled
in any letter case. It accepts the same records and has the same sort, includes and flags. Its cache
key is the same if no member of a document moves: the text of the criteria lists the parts of a
conjunction in the order of the keys as they were spelled.
-/

namespace RecordQuery

open Text (asciiLower)

/-! ### Respelled requests -/

structure SearchRequest.Respelled (a b : SearchRequest) : Prop where
  keyword : a.keyword = b.keyword
  targets : a.targets.map (List.map asciiLower) = b.targets.map (List.map asciiLower)
  depth : a.depth = b.depth

structure QueryRequest.Respelled (moved : Prop) (a b : QueryRequest) : Prop where
  filter : Option.Rel (Json.Respelled moved) a.filter b.filter
  search : Option.Rel SearchRequest.Respelled a.search b.search
  sort : a.sort.map asciiLower = b.sort.map asciiLower

/-- The right call is the left one with its names in another letter case. -/
inductive Builder.Step.Respelled (moved : Prop) : Builder.Step → Builder.Step → Prop
  | filter {a b : Json} (h : a.Respelled moved b) : Respelled moved (.filter a) (.filter b)
  | filterNode (f : Filter) : Respelled moved (.filterNode f) (.filterNode f)
  | combine (f : Filter) (combinator : Combinator) :
      Respelled moved (.combine f combinator) (.combine f combinator)
  | searchDepth (depth : Int) : Respelled moved (.searchDepth depth) (.searchDepth depth)
  | search {a b : SearchRequest} (h : a.Respelled b) : Respelled moved (.search a) (.search b)
  | sort {text other : String} {tie? other? : Option String}
      (htext : Text.sameName text other = true)
      (htie : tie?.map asciiLower = other?.map asciiLower) :
      Respelled moved (.sort text tie?) (.sort other other?)
  | sortOrder (order : SortOrder) : Respelled moved (.sortOrder order) (.sortOrder order)
  | load {path other : String} (h : Text.sameName path other = true) :
      Respelled moved (.load path) (.load other)
  | loadNested {path other : String} (h : Text.sameName path other = true) :
      Respelled moved (.loadNested path) (.loadNested other)
  | noTracking : Respelled moved .noTracking .noTracking
  | splitQuery : Respelled moved .splitQuery .splitQuery
  | cache (key : String) : Respelled moved (.cache key) (.cache key)
  | request {a b : QueryRequest} {tie? other? : Option String} (h : a.Respelled moved b)
      (htie : tie?.map asciiLower = other?.map asciiLower) :
      Respelled moved (.request a tie?) (.request b other?)

inductive Assembly.Respelled (moved : Prop) : Assembly → Assembly → Prop
  | built {steps others : List Builder.Step}
      (h : List.Forall₂ (Builder.Step.Respelled moved) steps others) :
      Respelled moved (.built steps) (.built others)
  | and {a b c d : Assembly} (hleft : Respelled moved a c) (hright : Respelled moved b d) :
      Respelled moved (.and a b) (.and c d)
  | or {a b c d : Assembly} (hleft : Respelled moved a c) (hright : Respelled moved b d) :
      Respelled moved (.or a b) (.or c d)

/-! ### Specifications -/

namespace Filter

variable {moved : Prop} {f f' g g' : Filter}

theorem SameUnless.and (hf : f.SameUnless moved f') (hg : g.SameUnless moved g') :
    (f.and g).SameUnless moved (f'.and g') :=
  .all (.cons hf (.cons hg .nil)) (Or.inl rfl)

theorem SameUnless.or (hf : f.SameUnless moved f') (hg : g.SameUnless moved g') :
    (f.or g).SameUnless moved (f'.or g') :=
  .any (.cons hf (.cons hg .nil))

end Filter

/-- The specifications are the same but for parts of their criteria that stand in another order if
members may move. -/
structure Specification.SameUnless (moved : Prop) (a b : Specification) : Prop where
  criteria : Option.Rel (Filter.SameUnless moved) a.criteria b.criteria
  sort : a.sort = b.sort
  includes : a.includes = b.includes
  noTracking : a.noTracking = b.noTracking
  splitQuery : a.splitQuery = b.splitQuery
  cacheKey : a.cacheKey = b.cacheKey

namespace Specification

variable {moved : Prop} {a b c d : Specification}

theorem SameUnless.predicate (h : a.SameUnless moved b) :
    Filter.SameUnless moved a.predicate b.predicate := by
  have hcriteria := h.criteria
  rw [Specification.predicate, Specification.predicate]
  generalize a.criteria = left, b.criteria = right at hcriteria ⊢
  rcases hcriteria with hcriteria | -
  · exact hcriteria
  · exact .refl _

theorem SameUnless.eq (h : a.SameUnless moved b) (hmoved : ¬moved) : a = b := by
  obtain ⟨criteria, sort, includes, noTracking, splitQuery, cacheKey⟩ := a
  obtain ⟨criteria', sort', includes', noTracking', splitQuery', cacheKey'⟩ := b
  obtain ⟨hcriteria, rfl, rfl, rfl, rfl, rfl⟩ := h
  rcases hcriteria with hcriteria | -
  · rw [hcriteria.eq hmoved]
  · rfl

theorem SameUnless.merge (hleft : a.SameUnless moved c) (hright : b.SameUnless moved d)
    {left right : Option Filter} (hcriteria : Option.Rel (Filter.SameUnless moved) left right) :
    (merge a b left).SameUnless moved (merge c d right) := by
  obtain ⟨-, hsort, hincludes, hnoTracking, hsplitQuery, -⟩ := hleft
  obtain ⟨-, hsort', hincludes', hnoTracking', hsplitQuery', -⟩ := hright
  refine ⟨hcriteria, ?_, ?_, ?_, ?_, rfl⟩
  · simp only [Specification.merge, hsort, hsort']
  · simp only [Specification.merge, hincludes, hincludes']
  · simp only [Specification.merge, hnoTracking, hnoTracking']
  · simp only [Specification.merge, hsplitQuery, hsplitQuery']

theorem SameUnless.and (hleft : a.SameUnless moved c) (hright : b.SameUnless moved d) :
    (a.and b).SameUnless moved (c.and d) := by
  refine hleft.merge hright ?_
  have hcriteria := And.intro hleft.criteria hright.criteria
  generalize a.criteria = f, b.criteria = g, c.criteria = f', d.criteria = g' at hcriteria ⊢
  rcases hcriteria with ⟨hf | -, hg | -⟩
  · exact .some (hf.and hg)
  · exact .some hf
  · exact .some hg
  · exact .none

theorem SameUnless.or (hleft : a.SameUnless moved c) (hright : b.SameUnless moved d) :
    (a.or b).SameUnless moved (c.or d) := by
  refine hleft.merge hright ?_
  have hcriteria := And.intro hleft.criteria hright.criteria
  generalize a.criteria = f, b.criteria = g, c.criteria = f', d.criteria = g' at hcriteria ⊢
  rcases hcriteria with ⟨hf | -, hg | -⟩
  · exact .some (hf.or hg)
  · exact .none
  · exact .none
  · exact .none

/-- The keys differ in the texts of the criteria only. -/
theorem SameUnless.cacheKeyWith_iff (h : a.SameUnless moved b) (schema : Schema)
    (extra : Option Json) :
    b.cacheKeyWith schema extra = a.cacheKeyWith schema extra ↔
      b.predicate.describe = a.predicate.describe := by
  have hsections : b.sections extra = a.sections extra := by
    rw [sections, sections, includeText, includeText, loads, loads, h.sort, h.includes,
      h.noTracking, h.splitQuery]
  rw [← String.toList_inj, cacheKeyWith_eq, cacheKeyWith_eq, hsections,
    List.append_cancel_left_eq, List.append_cancel_right_eq, String.toList_inj]

end Specification

/-! ### Builders -/

structure Builder.SameUnless (moved : Prop) (a b : Builder) : Prop where
  spec : a.spec.SameUnless moved b.spec
  lastInclude : a.lastInclude = b.lastInclude
  searchDepth : a.searchDepth = b.searchDepth

namespace Builder

variable {moved : Prop} {schema : Schema} {a b : Builder}

theorem SameUnless.combine (h : a.SameUnless moved b) {f g : Filter}
    (hfilter : f.SameUnless moved g) (combinator : Combinator) :
    (a.combine f combinator).SameUnless moved (b.combine g combinator) := by
  obtain ⟨⟨hcriteria, hsort, hincludes, hnoTracking, hsplitQuery, hcacheKey⟩, hlast, hdepth⟩ := h
  refine ⟨⟨?_, hsort, hincludes, hnoTracking, hsplitQuery, hcacheKey⟩, hlast, hdepth⟩
  rw [Builder.combine, Builder.combine]
  dsimp only
  generalize a.spec.criteria = left, b.spec.criteria = right at hcriteria ⊢
  rcases hcriteria with hcurrent | -
  · cases combinator with
    | and => exact .some (hcurrent.and hfilter)
    | or => exact .some (hcurrent.or hfilter)
  · exact .some hfilter

theorem SameUnless.filter (h : a.SameUnless moved b) {document other : Json}
    (hdocument : document.Respelled moved other) :
    Alike (SameUnless moved) (a.filter schema document) (b.filter schema other) :=
  (hdocument.compile schema).bind fun _ _ hfilter => .ok (h.combine hfilter .and)

theorem SameUnless.search (h : a.SameUnless moved b) {request other : SearchRequest}
    (hrequest : request.Respelled other) :
    Alike (SameUnless moved) (a.search schema request) (b.search schema other) := by
  have hkeyword : request.effectiveKeyword = other.effectiveKeyword := by
    rw [SearchRequest.effectiveKeyword, SearchRequest.effectiveKeyword, hrequest.keyword]
  have hcompile : ∀ keyword depth, Search.compile schema keyword request.targets depth =
      Search.compile schema keyword other.targets depth := by
    intro keyword depth
    rw [← Search.compile_asciiLower, hrequest.targets, Search.compile_asciiLower]
  rw [Builder.search, Builder.search, hkeyword, hrequest.depth, h.searchDepth]
  cases other.effectiveKeyword with
  | none => exact .ok h
  | some keyword =>
      dsimp only
      rw [hcompile]
      refine (Alike.of_toOption_eq rfl).bind ?_
      rintro f _ rfl
      exact .ok (h.combine (.refl f) .and)

theorem SameUnless.sortOrder (h : a.SameUnless moved b) (order : SortOrder) :
    (a.sortOrder order).SameUnless moved (b.sortOrder order) :=
  ⟨{ h.spec with sort := rfl }, h.lastInclude, h.searchDepth⟩

theorem SameUnless.sortText (h : a.SameUnless moved b) {text other : String}
    {tie? other? : Option String} (htext : Text.sameName text other = true)
    (htie : tie?.map asciiLower = other?.map asciiLower) :
    Alike (SameUnless moved) (a.sort schema text tie?) (b.sort schema other other?) := by
  have hcompile : (SortOrder.compile schema text tie?).toOption =
      (SortOrder.compile schema other other?).toOption := by
    rw [← SortOrder.compile_asciiLower, Text.sameName_iff.mp htext, htie,
      SortOrder.compile_asciiLower]
  refine (Alike.of_toOption_eq hcompile).bind ?_
  rintro order _ rfl
  exact .ok (h.sortOrder order)

theorem SameUnless.load (h : a.SameUnless moved b) {path other : String}
    (hpath : Text.sameName path other = true) :
    Alike (SameUnless moved) (a.withInclude schema path) (b.withInclude schema other) := by
  have hresolved := Alike.of_toOption_eq ((resolveInclude_caseBlind schema).congr hpath)
  refine hresolved.bind ?_
  rintro resolved _ rfl
  refine .ok ⟨{ h.spec with includes := ?_ }, rfl, h.searchDepth⟩
  rw [pushInclude, pushInclude, h.spec.includes]

theorem SameUnless.loadNested (h : a.SameUnless moved b) {path other : String}
    (hpath : Text.sameName path other = true) :
    Alike (SameUnless moved) (a.withNestedInclude schema path)
      (b.withNestedInclude schema other) := by
  rw [withNestedInclude, withNestedInclude, h.lastInclude]
  cases b.lastInclude with
  | none => exact .error _ _
  | some parent =>
      refine h.load (Text.sameName_iff.mpr ?_)
      rw [Text.asciiLower_append, Text.sameName_iff.mp hpath, ← Text.asciiLower_append]

theorem SameUnless.optional (h : a.SameUnless moved b) {α : Type} {related : α → α → Prop}
    {part other : Option α} (hpart : Option.Rel related part other)
    {run run' : α → Except QueryError Builder}
    (hrun : ∀ x y, related x y → Alike (SameUnless moved) (run x) (run' y)) :
    Alike (SameUnless moved) (part.elim (.ok a) run) (other.elim (.ok b) run') := by
  rcases hpart with hpart | -
  · exact hrun _ _ hpart
  · exact .ok h

theorem SameUnless.request (h : a.SameUnless moved b) {query other : QueryRequest}
    {tie? other? : Option String} (hquery : query.Respelled moved other)
    (htie : tie?.map asciiLower = other?.map asciiLower) :
    Alike (SameUnless moved) (a.request schema query tie?) (b.request schema other other?) := by
  have hsort : Text.sameName (query.sort.getD "") (other.sort.getD "") = true := by
    refine Text.sameName_iff.mpr ?_
    rw [← Option.getD_map asciiLower, ← Option.getD_map asciiLower, hquery.sort]
  have hblank := Text.isBlank_caseBlind.congr hsort
  have hgiven : tie?.isSome = other?.isSome := by
    rw [← Option.isSome_map, htie, Option.isSome_map]
  rw [request_eq, request_eq, hblank, hgiven]
  refine (h.optional hquery.filter fun _ _ => h.filter).bind fun _ _ hfiltered => ?_
  refine (hfiltered.optional hquery.search fun _ _ => hfiltered.search).bind
    fun _ _ hsearched => ?_
  split
  · exact hsearched.sortText hsort htie
  · exact .ok hsearched

/-- **A respelled call** leads to the same builder, but for the order of parts that moved. -/
theorem SameUnless.step (h : a.SameUnless moved b) {step other : Step}
    (hstep : step.Respelled moved other) :
    Alike (SameUnless moved) (step.run schema a) (other.run schema b) := by
  cases hstep with
  | filter hdocument => exact h.filter hdocument
  | filterNode f => exact .ok (h.combine (.refl f) .and)
  | combine f combinator => exact .ok (h.combine (.refl f) combinator)
  | searchDepth depth => exact .ok ⟨h.spec, h.lastInclude, rfl⟩
  | search hrequest => exact h.search hrequest
  | sort htext htie => exact h.sortText htext htie
  | sortOrder order => exact .ok (h.sortOrder order)
  | load hpath => exact h.load hpath
  | loadNested hpath => exact h.loadNested hpath
  | noTracking => exact .ok ⟨{ h.spec with noTracking := rfl }, h.lastInclude, h.searchDepth⟩
  | splitQuery => exact .ok ⟨{ h.spec with splitQuery := rfl }, h.lastInclude, h.searchDepth⟩
  | cache key => exact .ok ⟨{ h.spec with cacheKey := rfl }, h.lastInclude, h.searchDepth⟩
  | request hrequest htie => exact h.request hrequest htie

theorem SameUnless.runSteps {steps others : List Step}
    (hsteps : List.Forall₂ (Step.Respelled moved) steps others) (h : a.SameUnless moved b) :
    Alike (SameUnless moved) (Builder.runSteps schema a steps)
      (Builder.runSteps schema b others) := by
  induction hsteps generalizing a b with
  | nil => exact .ok h
  | cons hstep _ ih => exact (h.step hstep).bind fun _ _ hnext => ih hnext

theorem SameUnless.empty : SameUnless moved {} {} :=
  ⟨⟨.none, rfl, rfl, rfl, rfl, rfl⟩, rfl, rfl⟩

end Builder

/-! ### Assemblies -/

theorem Assembly.Respelled.specification {moved : Prop} {left right : Assembly}
    (h : left.Respelled moved right) (schema : Schema) :
    Alike (Specification.SameUnless moved) (left.specification schema)
      (right.specification schema) := by
  induction h with
  | built hsteps => exact (Builder.SameUnless.empty.runSteps hsteps).map fun _ _ h => h.spec
  | and _ _ ihleft ihright =>
      exact ihleft.bind fun _ _ hleft => ihright.bind fun _ _ hright => .ok (hleft.and hright)
  | or _ _ ihleft ihright =>
      exact ihleft.bind fun _ _ hleft => ihright.bind fun _ _ hright => .ok (hleft.or hright)

/-- **A respelled assembly compiles**, and what it gives accepts the same records, in the same order
and with the same includes and flags. The cache keys can differ in the texts of the criteria only,
and they are the same if no member of a document moved. -/
theorem Assembly.respelled_agrees {moved : Prop} {schema : Schema} {left right : Assembly}
    {a : Specification} (h : left.Respelled moved right)
    (hspec : left.specification schema = .ok a) :
    ∃ b, right.specification schema = .ok b ∧ (∀ r, b.accepts r = a.accepts r) ∧
      b.sort = a.sort ∧ b.includes = a.includes ∧ b.noTracking = a.noTracking ∧
      b.splitQuery = a.splitQuery ∧
      (∀ extra, b.cacheKeyWith schema extra = a.cacheKeyWith schema extra ↔
        b.predicate.describe = a.predicate.describe) ∧
      (¬moved → ∀ extra, b.cacheKeyWith schema extra = a.cacheKeyWith schema extra) := by
  have halike := h.specification schema
  rw [hspec] at halike
  obtain ⟨b, hb, hsame⟩ := halike.exists_ok
  have haccepts : ∀ r, b.accepts r = a.accepts r :=
    fun r => (hsame.predicate.equivalent (.record r)).symm
  refine ⟨b, hb, haccepts, hsame.sort.symm, hsame.includes.symm, hsame.noTracking.symm,
    hsame.splitQuery.symm, hsame.cacheKeyWith_iff schema, fun hmoved extra => ?_⟩
  rw [hsame.eq hmoved]

namespace Article

def leastScore (key token : String) : String × Json :=
  (key, .object [(token, .number (.ofUInt32 4))])

def exactTitle (key : String) : String × Json :=
  (key, .text "Lean")

/-- The document, with its keys in three spellings. -/
def small : Json :=
  .object [leastScore "score" "$gte", exactTitle "title"]

def capitalScore : Json :=
  .object [leastScore "SCORE" "$GTE", exactTitle "title"]

def capitalTitle : Json :=
  .object [exactTitle "TITLE", leastScore "score" "$gte"]

/-- Articles that match a document, in an order and with their authors. -/
def rated (document : Json) (sort tieBreaker load : String) : Assembly :=
  .built [.filter document, .sort sort (some tieBreaker), .load load]

theorem respelled_rated :
    ∃ a b, (rated small "title:desc" "score" "author").specification schema = .ok a ∧
      (rated capitalScore "Title:DESC" "Score" "AUTHOR").specification schema = .ok b ∧
      ∀ extra, b.cacheKeyWith schema extra = a.cacheKeyWith schema extra := by
  have hleast : (leastScore "score" "$gte").2.Respelled False (leastScore "SCORE" "$GTE").2 :=
    .object (.cons (by decide +kernel) (Json.respelled_refl _ _) .nil) (Or.inl rfl)
  have hdocument : small.Respelled False capitalScore :=
    .object (.cons (by decide +kernel) hleast (Json.respelledMembers_refl _ _)) (Or.inl rfl)
  have hrespelled : (rated small "title:desc" "score" "author").Respelled False
      (rated capitalScore "Title:DESC" "Score" "AUTHOR") :=
    .built (.cons (.filter hdocument) (.cons (.sort (by decide +kernel) (by decide +kernel))
      (.cons (.load (by decide +kernel)) .nil)))
  have hcompiles : both (rated small "title:desc" "score" "author") (.built [])
      (fun _ _ => true) = true := by decide +kernel
  obtain ⟨a, -, ha, -, -⟩ := both_eq_true hcompiles
  obtain ⟨b, hb, -, -, -, -, -, -, hkeys⟩ := Assembly.respelled_agrees hrespelled ha
  exact ⟨a, b, ha, hb, hkeys not_false⟩

/-- A capital letter comes before the small ones: with `TITLE` for `title`, the title is the first
member, and the key lists it first. -/
theorem respelled_keys_differ :
    small.Respelled True capitalTitle ∧
    ∃ a b, (Assembly.built [.filter small]).specification schema = .ok a ∧
      (Assembly.built [.filter capitalTitle]).specification schema = .ok b ∧
      a.cacheKeyWith schema none ≠ b.cacheKeyWith schema none := by
  have hmembers : Json.RespelledMembers True [leastScore "score" "$gte", exactTitle "title"]
      [leastScore "score" "$gte", exactTitle "TITLE"] :=
    .cons (Text.sameName_refl "score") (Json.respelled_refl _ _)
      (.cons (by decide +kernel) (Json.respelled_refl _ _) .nil)
  have hboth : both (.built [.filter small]) (.built [.filter capitalTitle]) (fun a b =>
      a.cacheKeyWith schema none != b.cacheKeyWith schema none) = true := by decide +kernel
  obtain ⟨a, b, ha, hb, hkeys⟩ := both_eq_true hboth
  exact ⟨.object hmembers (Or.inr ⟨trivial, .swap _ _ _⟩), a, b, ha, hb, bne_iff_ne.mp hkeys⟩

end Article

end RecordQuery
