import RecordQuery.Proofs.Composition
import RecordQuery.Proofs.KeyOrder
import RecordQuery.Proofs.NormalFilter

/-!
# Canonical specifications

A specification made from documents, searches, sorts and includes is canonical: its criteria are in
normal form, its sort keys can be read with the schema, and its includes are resolved paths. Each
call on a builder keeps a specification canonical, and so do the joins.
-/

namespace RecordQuery

/-- A filter from a document or a search, or joined from such filters. -/
inductive Filter.Compiled (schema : Schema) : Filter → Prop
  | document {document : Json} {f : Filter} (h : Filter.compile schema document = .ok f) :
      Compiled schema f
  | search {keyword : String} {targets? : Option (List String)} {depth : Int} {f : Filter}
      (h : Search.compile schema keyword targets? depth = .ok f) : Compiled schema f
  | and {f g : Filter} (hf : Compiled schema f) (hg : Compiled schema g) :
      Compiled schema (f.and g)
  | or {f g : Filter} (hf : Compiled schema f) (hg : Compiled schema g) : Compiled schema (f.or g)

theorem Filter.Compiled.normal {names : String → Prop} {schema : Schema} {f : Filter}
    (h : f.Compiled schema) (hnamed : schema.Named names) : f.Normal names (.records schema) := by
  induction h with
  | document h => exact normal_of_compile h hnamed
  | search h => exact Search.normal_of_compile h hnamed _
  | and _ _ ihf ihg => exact ihf.and ihg
  | or _ _ ihf ihg => exact ihf.or ihg

/-- Filters and orders that are handed to the builder were compiled with the schema. -/
def Builder.Step.Compiled (schema : Schema) : Builder.Step → Prop
  | .filterNode f => f.Compiled schema
  | .combine f _ => f.Compiled schema
  | .sortOrder order => ∃ text tieBreaker, SortOrder.compile schema text tieBreaker = .ok order
  | _ => True

def Assembly.Compiled (schema : Schema) : Assembly → Prop
  | .built steps => ∀ step ∈ steps, step.Compiled schema
  | .and a b => a.Compiled schema ∧ b.Compiled schema
  | .or a b => a.Compiled schema ∧ b.Compiled schema

/-- The keys can be read with the schema. -/
def SortOrder.Resolved (schema : Schema) (order : SortOrder) : Prop :=
  ∀ key ∈ order.keys, ∃ entry, readKey schema entry = .ok key

namespace Specification

structure Canonical (names : String → Prop) (schema : Schema) (spec : Specification) : Prop where
  criteria : ∀ f ∈ spec.criteria, f.Normal names (.records schema)
  sort : ∀ order ∈ spec.sort, order.Resolved schema
  includes : ∀ path ∈ spec.includes, ∃ text p, schema.resolve? text = some p ∧ p.text = path

variable {names : String → Prop} {schema : Schema} {spec a b : Specification}

theorem Canonical.empty : Canonical names schema {} :=
  ⟨by simp, by simp, by simp⟩

theorem Canonical.predicate (h : spec.Canonical names schema) :
    spec.predicate.Normal names (.records schema) := by
  rw [Specification.predicate]
  cases hcriteria : spec.criteria with
  | none => exact .const true
  | some f => exact h.criteria f hcriteria

/-! ### Joins -/

theorem forall_mem_addInclude {p : String → Prop} {includes : List String} {path : String}
    (h : ∀ i ∈ includes, p i) (hpath : p path) : ∀ i ∈ addInclude includes path, p i := by
  rw [addInclude]
  split
  · exact h
  · exact List.forall_mem_append.mpr ⟨h, List.forall_mem_singleton.mpr hpath⟩

theorem Canonical.merge (ha : a.Canonical names schema) (hb : b.Canonical names schema)
    {criteria : Option Filter} (hcriteria : ∀ f ∈ criteria, f.Normal names (.records schema)) :
    (merge a b criteria).Canonical names schema := by
  refine ⟨hcriteria, fun order horder => ?_, ?_⟩
  · rcases Option.or_eq_some_iff.mp horder with hsort | ⟨-, hsort⟩
    · exact ha.sort order hsort
    · exact hb.sort order hsort
  · refine List.foldlRecOn (motive := fun includes => ∀ path ∈ includes,
      ∃ text p, schema.resolve? text = some p ∧ Path.text p = path) b.includes _ ha.includes ?_
    exact fun includes hincludes path hpath =>
      forall_mem_addInclude hincludes (hb.includes path hpath)

theorem Canonical.and (ha : a.Canonical names schema) (hb : b.Canonical names schema) :
    (a.and b).Canonical names schema := by
  refine ha.merge hb fun f hf => ?_
  split at hf
  next hleft hright =>
    cases hf
    exact (ha.criteria _ hleft).and (hb.criteria _ hright)
  next =>
    rcases Option.or_eq_some_iff.mp hf with hleft | ⟨-, hright⟩
    · exact ha.criteria f hleft
    · exact hb.criteria f hright

theorem Canonical.or (ha : a.Canonical names schema) (hb : b.Canonical names schema) :
    (a.or b).Canonical names schema := by
  refine ha.merge hb fun f hf => ?_
  split at hf
  next hleft hright =>
    cases hf
    exact (ha.criteria _ hleft).or (hb.criteria _ hright)
  next => cases hf

end Specification

/-! ### Builders -/

namespace Builder

variable {names : String → Prop} {schema : Schema} {builder next : Builder}

abbrev Canonical (names : String → Prop) (schema : Schema) (builder : Builder) : Prop :=
  builder.spec.Canonical names schema

theorem Canonical.combine (h : builder.Canonical names schema) {f : Filter}
    (hf : f.Normal names (.records schema)) (combinator : Combinator) :
    (builder.combine f combinator).Canonical names schema := by
  refine ⟨?_, h.sort, h.includes⟩
  rintro g ⟨⟩
  split
  next => exact hf
  next current hcurrent =>
    cases combinator with
    | and => exact (h.criteria current hcurrent).and hf
    | or => exact (h.criteria current hcurrent).or hf

theorem Canonical.filter (h : builder.Canonical names schema) (hnamed : schema.Named names)
    {document : Json} (hrun : builder.filter schema document = .ok next) :
    next.Canonical names schema := by
  obtain ⟨f, hf, hnext⟩ := bind_eq_ok.mp hrun
  cases hnext
  exact h.combine (Filter.normal_of_compile hf hnamed) .and

theorem Canonical.search (h : builder.Canonical names schema) (hnamed : schema.Named names)
    {keywords : SearchRequest} (hrun : builder.search schema keywords = .ok next) :
    next.Canonical names schema := by
  rw [Builder.search] at hrun
  split at hrun
  · cases hrun
    exact h
  · obtain ⟨f, hf, hnext⟩ := bind_eq_ok.mp hrun
    cases hnext
    exact h.combine (Search.normal_of_compile hf hnamed _) .and

theorem Canonical.sortOrder (h : builder.Canonical names schema) {text : String}
    {tieBreaker : Option String} {order : SortOrder}
    (horder : SortOrder.compile schema text tieBreaker = .ok order) :
    (builder.sortOrder order).Canonical names schema := by
  refine ⟨h.criteria, ?_, h.includes⟩
  rintro _ ⟨⟩ key hkey
  obtain ⟨entry, -, hentry⟩ := SortOrder.compile_origin horder key hkey
  exact ⟨entry, hentry⟩

theorem Canonical.sortBy (h : builder.Canonical names schema) {text : String}
    {tieBreaker : Option String} (hrun : builder.sort schema text tieBreaker = .ok next) :
    next.Canonical names schema := by
  obtain ⟨order, horder, hnext⟩ := bind_eq_ok.mp hrun
  cases hnext
  exact h.sortOrder horder

theorem Canonical.load (h : builder.Canonical names schema) {path : String}
    (hrun : builder.withInclude schema path = .ok next) : next.Canonical names schema := by
  obtain ⟨resolved, hresolved, hnext⟩ := bind_eq_ok.mp hrun
  cases hnext
  rw [resolveInclude] at hresolved
  split at hresolved
  next p hp =>
    cases hresolved
    exact ⟨h.criteria, h.sort, Specification.forall_mem_addInclude h.includes ⟨path, p, hp, rfl⟩⟩
  next => cases hresolved

theorem Canonical.loadNested (h : builder.Canonical names schema) {path : String}
    (hrun : builder.withNestedInclude schema path = .ok next) : next.Canonical names schema := by
  rw [withNestedInclude] at hrun
  split at hrun
  · cases hrun
  · exact h.load hrun

theorem Canonical.request (h : builder.Canonical names schema) (hnamed : schema.Named names)
    {query : QueryRequest} {tieBreaker : Option String}
    (hrun : builder.request schema query tieBreaker = .ok next) : next.Canonical names schema := by
  have hoptional : ∀ {α : Type} {builder next : Builder} {apply : α → Except QueryError Builder}
      {a? : Option α}, builder.Canonical names schema →
      (∀ a, apply a = .ok next → next.Canonical names schema) →
      a?.elim (.ok builder) apply = .ok next → next.Canonical names schema := by
    intro α builder next apply a? h happly hrun
    cases a? with
    | none =>
        cases hrun
        exact h
    | some a => exact happly a hrun
  rw [request_eq] at hrun
  obtain ⟨filtered, hfiltered, hrun⟩ := bind_eq_ok.mp hrun
  obtain ⟨searched, hsearched, hsorted⟩ := bind_eq_ok.mp hrun
  have hfiltered := hoptional h (fun _ => h.filter hnamed) hfiltered
  have hsearched := hoptional hfiltered (fun _ => hfiltered.search hnamed) hsearched
  split at hsorted
  · exact hsearched.sortBy hsorted
  · cases hsorted
    exact hsearched

/-- **One call on a builder** keeps its specification canonical. -/
theorem Canonical.step (h : builder.Canonical names schema) (hnamed : schema.Named names)
    {step : Step} (hcompiled : step.Compiled schema) (hrun : step.run schema builder = .ok next) :
    next.Canonical names schema := by
  cases step with
  | filter document => exact h.filter hnamed hrun
  | filterNode f =>
      cases hrun
      exact h.combine (hcompiled.normal hnamed) .and
  | combine f combinator =>
      cases hrun
      exact h.combine (hcompiled.normal hnamed) combinator
  | search keywords => exact h.search hnamed hrun
  | sort text tieBreaker => exact h.sortBy hrun
  | sortOrder order =>
      cases hrun
      obtain ⟨text, tieBreaker, horder⟩ := hcompiled
      exact h.sortOrder horder
  | load path => exact h.load hrun
  | loadNested path => exact h.loadNested hrun
  | request query tieBreaker => exact h.request hnamed hrun
  | searchDepth _ | noTracking | splitQuery | cache _ =>
      cases hrun
      exact ⟨h.criteria, h.sort, h.includes⟩

/-- **A run of calls** keeps its specification canonical. -/
theorem Canonical.runSteps {steps : List Step} (h : builder.Canonical names schema)
    (hnamed : schema.Named names) (hcompiled : ∀ step ∈ steps, step.Compiled schema)
    (hrun : Builder.runSteps schema builder steps = .ok next) : next.Canonical names schema := by
  induction steps generalizing builder with
  | nil =>
      cases hrun
      exact h
  | cons step steps ih =>
      obtain ⟨between, hstep, hrest⟩ := bind_eq_ok.mp hrun
      obtain ⟨hfirst, hothers⟩ := List.forall_mem_cons.mp hcompiled
      exact ih (h.step hnamed hfirst hstep) hothers hrest

end Builder

/-- **Whatever is put together from compiled parts is canonical.** -/
theorem Assembly.canonical {names : String → Prop} {schema : Schema} (hnamed : schema.Named names)
    {assembly : Assembly} (hcompiled : assembly.Compiled schema) {spec : Specification}
    (h : assembly.specification schema = .ok spec) : spec.Canonical names schema := by
  induction assembly generalizing spec with
  | built steps =>
      obtain ⟨builder, hrun, rfl⟩ := map_eq_ok.mp h
      have hempty : Builder.Canonical names schema {} := Specification.Canonical.empty
      exact hempty.runSteps hnamed hcompiled hrun
  | and a b iha ihb =>
      obtain ⟨left, hleft, h⟩ := bind_eq_ok.mp h
      obtain ⟨right, hright, h⟩ := bind_eq_ok.mp h
      cases h
      exact (iha hcompiled.1 hleft).and (ihb hcompiled.2 hright)
  | or a b iha ihb =>
      obtain ⟨left, hleft, h⟩ := bind_eq_ok.mp h
      obtain ⟨right, hright, h⟩ := bind_eq_ok.mp h
      cases h
      exact (iha hcompiled.1 hleft).or (ihb hcompiled.2 hright)

end RecordQuery
