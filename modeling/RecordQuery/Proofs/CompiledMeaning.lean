import RecordQuery.Proofs.DeclaredShape
import RecordQuery.Proofs.DocumentMeaning

/-!
# Compiled filters mean their documents

The filter that a document compiles to accepts the records that the document holds of. The proof
follows the compiler: the elements of collections and the hops of a path first, then documents.
-/

namespace RecordQuery

open RecordQuery.Filter (Target)

namespace Filter

/-! ### Elements of collections -/

theorem any_congr_mem {α : Type} {xs : List α} {p q : α → Bool} (h : ∀ x ∈ xs, p x = q x) :
    xs.any p = xs.any q := by
  have hmap := congrArg (fun bs => bs.any id) (List.map_congr_left h)
  simpa only [List.any_map, Function.id_comp] using hmap

section Element

variable {schema inner : Schema} {leaf : Field} {item : Value}

theorem allows_of_mem_elements {value : Value} (h : schema.Allows leaf value) :
    ∀ item ∈ value.elements, schema.Allows { leaf with collection := false } item := by
  intro item hitem
  cases h with
  | absent => cases hitem
  | scalar _ _ _ hlist =>
      cases value with
      | list items => exact absurd rfl (hlist items)
      | _ => cases hitem
  | record => cases hitem
  | list _ hitems => exact hitems item hitem

/-- The elements of a collection of records are records, or absent like a record without fields. -/
theorem record_of_element (h : schema.Allows { leaf with collection := false } item)
    (hinner : schema.nested? leaf = Option.some inner) (hkind : leaf.kind = .object) :
    inner.Shapes item.asRecord ∧
      ∀ f : Filter, f.holds (.ofElement item) = f.holds (.record item.asRecord) := by
  cases h with
  | absent => exact ⟨.fields fun _ _ _ => .absent, holds_absent⟩
  | scalar hscalar => exact absurd hkind hscalar
  | record _ hnested hshapes =>
      have hsame : schema.nested? leaf = Option.some _ := hnested
      rw [hinner] at hsame
      cases hsame
      exact ⟨hshapes, fun _ => rfl⟩
  | list hmany => cases hmany

theorem shapes_of_record {r : Record} (h : schema.Allows leaf (.record r))
    (hinner : schema.nested? leaf = Option.some inner) : inner.Shapes r := by
  cases h with
  | scalar _ _ hrecord => exact absurd rfl (hrecord r)
  | record _ hnested hshapes =>
      rw [hinner] at hnested
      cases hnested
      exact hshapes

theorem element_of_scalar (h : schema.Allows { leaf with collection := false } item)
    (hnone : schema.nested? leaf = none) : Subject.ofElement item = .element item := by
  cases h with
  | absent => rfl
  | scalar _ _ hrecord =>
      cases item with
      | record r => exact absurd rfl (hrecord r)
      | _ => rfl
  | record _ hnested =>
      have hsome : schema.nested? leaf = Option.some _ := hnested
      rw [hnone] at hsome
      cases hsome
  | list hmany => cases hmany

end Element

/-! ### Hops -/

theorem holds_some {name : String} (hname : '.' ∉ name.toList) (f : Filter) (r : Record) :
    (Filter.some name f).holds (.record r) =
      (r.read name).elements.any fun item => f.holds (.ofElement item) := by
  rw [holds, Subject.read, Record.readPath_name hname]
  cases r.read name <;> simp [Value.elements]

theorem holds_scope {name : String} (hname : '.' ∉ name.toList) (f : Filter) (r : Record) :
    (Filter.scope name f).holds (.record r) =
      (r.read name).record?.any fun inner => f.holds (.record inner) := by
  rw [holds, Subject.read, Record.readPath_name hname]
  cases r.read name <;> rfl

/-- **A filter within hops holds where the hops lead.** -/
theorem holds_within {schema : Schema} {names : List String} {path : Path}
    (hpath : schema.follow? names = Option.some path) (hundotted : path.Undotted)
    (hbuilt : schema.Built) {inner : Filter} {condition : Record → Bool}
    (hinner : ∀ owner : Record, path.leaf.Built schema.types →
      schema.Allows path.leaf (owner.read path.leaf.name) →
        inner.holds (.record owner) = condition owner)
    {r : Record} (hr : schema.Shapes r) :
    (within path.before inner).holds (.record r) = r.along condition path.before := by
  -- on the names, since the rest of a path is followed in the nested schema of its first field
  induction names generalizing schema path r with
  | nil => cases hpath
  | cons name names ih =>
      cases names with
      | nil =>
          obtain ⟨f, hf, rfl⟩ := Option.map_eq_some_iff.mp hpath
          obtain ⟨hallows⟩ := hr
          exact hinner r (hbuilt.field hf) (hallows name f hf)
      | cons next names =>
          obtain ⟨f, nested, rest, hf, hnested, hrest, rfl⟩ := Schema.follow?_cons hpath
          have hdot : '.' ∉ f.name.toList := hundotted f (by simp [Path.hops])
          have htypes : nested.types = schema.types := Schema.types_of_nested? hnested
          have hrest : ∀ owner, nested.Shapes owner →
              (within rest.before inner).holds (.record owner) =
                owner.along condition rest.before := by
            intro owner howner
            refine ih hrest (fun hop hhop => hundotted hop ?_) (hbuilt.nested hnested) ?_ howner
            · simpa [Path.hops] using Or.inr hhop
            · intro owner hleaf hvalue
              exact hinner owner (htypes ▸ hleaf) (hvalue.of_types_eq htypes)
          obtain ⟨hallows⟩ := hr
          have hvalue := hallows name f hf
          change (if f.collection then Filter.some f.name (within rest.before inner)
            else Filter.scope f.name (within rest.before inner)).holds (.record r) = _
          rw [Record.along]
          cases hmany : f.collection with
          | true =>
              rw [if_pos rfl, if_pos rfl, holds_some hdot]
              refine any_congr_mem fun item hitem => ?_
              have hkind : f.kind = .object :=
                (Schema.exists_nested?_iff (hbuilt.field hf)).mp ⟨nested, hnested⟩
              obtain ⟨hshapes, hholds⟩ :=
                record_of_element (allows_of_mem_elements hvalue item hitem) hnested hkind
              rw [hholds, hrest _ hshapes]
          | false =>
              rw [if_neg Bool.false_ne_true, if_neg Bool.false_ne_true, holds_scope hdot]
              cases hread : r.read f.name with
              | record owner =>
                  rw [hread] at hvalue
                  exact hrest owner (shapes_of_record hvalue hnested)
              | _ => rfl

/-! ### Leaves -/

/-- An element that the entries of a collection can be tested on: a record in the shape of its
schema, or no record where the elements have no schema. -/
def Element (inner? : Option Schema) (item : Value) : Prop :=
  match inner? with
  | .some inner => inner.Built ∧ inner.Shapes item.asRecord ∧
      ∀ f : Filter, f.holds (.ofElement item) = f.holds (.record item.asRecord)
  | none => Subject.ofElement item = .element item

theorem element_of_allows {schema : Schema} {leaf : Field} {item : Value}
    (hbuilt : schema.Built) (hleaf : leaf.Built schema.types)
    (h : schema.Allows { leaf with collection := false } item) :
    Element (schema.nested? leaf) item := by
  cases hnested : schema.nested? leaf with
  | none => exact element_of_scalar h hnested
  | some inner =>
      have hkind := (Schema.exists_nested?_iff hleaf).mp ⟨inner, hnested⟩
      exact ⟨hbuilt.nested hnested, record_of_element h hnested hkind⟩

section Leaf

variable {schema : Schema} {key : String} {path : Path} {r : Record} {f : Filter}

theorem undotted_leaf (hpath : schema.resolve? key = Option.some path) :
    '.' ∉ path.leaf.name.toList :=
  Schema.resolve?_undotted hpath path.leaf (by simp [Path.hops])

theorem holds_collection (hpath : schema.resolve? key = Option.some path) (hbuilt : schema.Built)
    (hr : schema.Shapes r) {condition : Value → Bool}
    (h : ∀ item, Element (schema.nested? path.leaf) item →
      f.holds (.ofElement item) = condition item) :
    (within path.before (.some path.leaf.name f)).holds (.record r) =
      r.along (fun owner => (owner.read path.leaf.name).elements.any condition) path.before := by
  refine holds_within hpath (Schema.resolve?_undotted hpath) hbuilt ?_ hr
  intro owner hleaf hvalue
  rw [holds_some (undotted_leaf hpath)]
  refine any_congr_mem fun item hitem => h item ?_
  exact element_of_allows hbuilt hleaf (allows_of_mem_elements hvalue item hitem)

theorem holds_nested (hpath : schema.resolve? key = Option.some path) (hbuilt : schema.Built)
    (hr : schema.Shapes r) {inner : Schema} (hinner : schema.nested? path.leaf = Option.some inner)
    {condition : Record → Bool}
    (h : ∀ nested, inner.Shapes nested → f.holds (.record nested) = condition nested) :
    (within path.before (.scope path.leaf.name f)).holds (.record r) =
      r.along (fun owner => (owner.read path.leaf.name).record?.any condition) path.before := by
  refine holds_within hpath (Schema.resolve?_undotted hpath) hbuilt ?_ hr
  intro owner _ hvalue
  rw [holds_scope (undotted_leaf hpath)]
  cases hread : owner.read path.leaf.name with
  | record nested =>
      rw [hread] at hvalue
      exact h nested (shapes_of_record hvalue hinner)
  | _ => rfl

theorem holds_scalar (hpath : schema.resolve? key = Option.some path) (hbuilt : schema.Built)
    (hr : schema.Shapes r) {condition : Value → Bool}
    (h : ∀ subject : Subject,
      f.holds subject = condition (subject.read (Option.some path.leaf.name))) :
    (within path.before f).holds (.record r) =
      r.along (fun owner => condition (owner.read path.leaf.name)) path.before := by
  refine holds_within hpath (Schema.resolve?_undotted hpath) hbuilt ?_ hr
  intro owner _ _
  rw [h, Subject.read, Record.readPath_name (undotted_leaf hpath)]

end Leaf

/-! ### Documents -/

/-- The filter of one entry of a collection. -/
def compileEntry (inner? : Option Schema) (target : Target) (path key : String) (value : Json) :
    Except QueryError Filter :=
  if Text.sameName key anyKey then
    match inner? with
    | .some inner => match value with
      | .object members => (compileMembers inner members).map .all
      | _ => .error (.ambiguousCollection path)
    | none => target.compile value
  else if startsWithDollar key && (Combinator.ofKey? key).isNone then
    .error (.ambiguousCollection path)
  else match inner? with
    | .some inner => (compileMember inner key value).map fun filter => .all [filter]
    | none => .error (.ambiguousCollection path)

theorem compileElements_cons (inner? : Option Schema) (target : Target) (path key : String)
    (value : Json) (entries : List (String × Json)) :
    compileElements inner? target path ((key, value) :: entries) =
      (compileEntry inner? target path key value >>= fun first =>
        (compileElements inner? target path entries).map (first :: ·)) := by
  rw [compileElements.eq_def]
  unfold compileEntry
  dsimp only
  split
  · cases inner? with
    | some inner => cases value <;> rfl
    | none => rfl
  · split
    · rfl
    · cases inner? <;> rfl

-- The recursion is on the JSON, like the one of the compiler; records and elements vary with it.
mutual

theorem all_compileMembers {schema : Schema} (hbuilt : schema.Built)
    (entries : List (String × Json)) {filters : List Filter}
    (h : compileMembers schema entries = .ok filters) {r : Record} (hr : schema.Shapes r) :
    filters.all (holds (.record r)) = Meaning.members schema entries r := by
  match entries with
  | [] =>
      cases h
      rfl
  | (key, value) :: rest =>
      rw [compileMembers] at h
      obtain ⟨first, hfirst, h⟩ := bind_eq_ok.mp h
      obtain ⟨others, hothers, h⟩ := bind_eq_ok.mp h
      cases h
      rw [List.all_cons, holds_compileMember hbuilt key value hfirst hr,
        all_compileMembers hbuilt rest hothers hr, Meaning.members]

theorem holds_compileMember {schema : Schema} (hbuilt : schema.Built) (key : String) (value : Json)
    {f : Filter} (h : compileMember schema key value = .ok f) {r : Record} (hr : schema.Shapes r) :
    f.holds (.record r) = Meaning.member schema key value r := by
  rw [compileMember.eq_def] at h
  rw [Meaning.member.eq_def]
  cases hkey : Combinator.ofKey? key with
  | some combinator =>
      rw [hkey] at h
      match value with
      | .array items =>
          obtain ⟨filters, hfilters, rfl⟩ := map_eq_ok.mp h
          rw [holds_join, map_compileDocuments hbuilt items hfilters hr]
      | .null | .bool _ | .number _ | .text _ | .object _ => cases h
  | none =>
      rw [hkey] at h
      dsimp only at h ⊢
      split at h
      next => cases h -- an operator in the place of a field
      next =>
        cases hpath : schema.resolve? key with
        | none =>
            rw [hpath] at h
            cases h
        | some path =>
            rw [hpath] at h
            dsimp only at h ⊢
            by_cases hmany : path.leaf.collection = true
            · rw [if_pos hmany] at h
              simp only [if_pos hmany]
              match value with
              | .object entries =>
                  obtain ⟨filters, hfilters, rfl⟩ := map_eq_ok.mp h
                  refine holds_collection hpath hbuilt hr fun item hitem => ?_
                  rw [holds_all, all_compileElements entries hfilters hitem]
              | .null | .bool _ | .number _ | .text _ | .array _ => cases h
            · rw [if_neg hmany] at h
              simp only [if_neg hmany]
              by_cases hkind : path.leaf.kind = .object
              · rw [if_pos hkind] at h
                simp only [if_pos hkind]
                cases hnested : schema.nested? path.leaf with
                | none =>
                    rw [hnested] at h
                    cases h
                | some inner =>
                    rw [hnested] at h
                    match value with
                    | .object entries =>
                        obtain ⟨filters, hfilters, rfl⟩ := map_eq_ok.mp h
                        refine holds_nested hpath hbuilt hr hnested fun nested hnested_r => ?_
                        rw [holds_all, all_compileMembers (hbuilt.nested hnested) entries hfilters
                          hnested_r]
                    | .null | .bool _ | .number _ | .text _ | .array _ => cases h
              · rw [if_neg hkind] at h
                simp only [if_neg hkind]
                obtain ⟨inner, hinner, rfl⟩ := map_eq_ok.mp h
                exact holds_scalar hpath hbuilt hr fun subject =>
                  Target.holds_compile value hinner subject

theorem map_compileDocuments {schema : Schema} (hbuilt : schema.Built) {key : String}
    (items : List Json) {filters : List Filter}
    (h : compileDocuments schema key items = .ok filters) {r : Record} (hr : schema.Shapes r) :
    filters.map (holds (.record r)) = Meaning.documents schema items r := by
  match items with
  | [] =>
      cases h
      rfl
  | .object entries :: rest =>
      rw [compileDocuments] at h
      obtain ⟨first, hfirst, h⟩ := bind_eq_ok.mp h
      obtain ⟨inner, hinner, rfl⟩ := map_eq_ok.mp hfirst
      obtain ⟨others, hothers, h⟩ := bind_eq_ok.mp h
      cases h
      rw [List.map_cons, holds_all, all_compileMembers hbuilt entries hinner hr,
        map_compileDocuments hbuilt rest hothers hr]
      rfl
  | .null :: _ | .bool _ :: _ | .number _ :: _ | .text _ :: _ | .array _ :: _ =>
      cases h

theorem all_compileElements {inner? : Option Schema} {leaf : Field} {path : String}
    (entries : List (String × Json)) {filters : List Filter}
    (h : compileElements inner? (.ofElement leaf) path entries = .ok filters) {item : Value}
    (hitem : Element inner? item) :
    filters.all (holds (.ofElement item)) = Meaning.entries inner? leaf entries item := by
  match entries with
  | [] =>
      cases h
      rfl
  | (key, value) :: rest =>
      rw [compileElements_cons] at h
      obtain ⟨first, hfirst, hrest⟩ := bind_eq_ok.mp h
      obtain ⟨others, hothers, rfl⟩ := map_eq_ok.mp hrest
      clear h hrest
      rw [Meaning.entries.eq_def]
      dsimp only
      rw [List.all_cons, all_compileElements rest hothers hitem]
      congr 1
      unfold compileEntry at hfirst
      by_cases hany : Text.sameName key anyKey = true
      · rw [if_pos hany] at hfirst ⊢
        cases inner? with
        | some inner =>
            obtain ⟨hbuilt, hshapes, hholds⟩ := hitem
            match value with
            | .object members =>
                obtain ⟨filters, hfilters, rfl⟩ := map_eq_ok.mp hfirst
                rw [hholds, holds_all, all_compileMembers hbuilt members hfilters hshapes]
                rfl
            | .null | .bool _ | .number _ | .text _ | .array _ => cases hfirst
        | none =>
            have hsubject : Subject.ofElement item = .element item := hitem
            rw [Target.holds_compile value hfirst, hsubject]
            rfl
      · rw [if_neg hany] at hfirst ⊢
        split at hfirst
        case isTrue => cases hfirst
        cases inner? with
        | some inner =>
            obtain ⟨hbuilt, hshapes, hholds⟩ := hitem
            obtain ⟨inner_filter, hinner, rfl⟩ := map_eq_ok.mp hfirst
            rw [hholds, holds_all]
            simp [holds_compileMember hbuilt key value hinner hshapes]
        | none => cases hfirst

end

/-- **A compiled filter accepts the records that its document holds of**, in the declared shape of
their schema. -/
theorem accepts_compile {schema : Schema} {document : Json} {f : Filter}
    (h : compile schema document = .ok f) (hbuilt : schema.Built) {r : Record}
    (hr : schema.Shapes r) : f.accepts r = schema.means document r := by
  rw [compile.eq_def] at h
  cases document with
  | null =>
      cases h
      rfl
  | object members =>
      obtain ⟨filters, hfilters, rfl⟩ := map_eq_ok.mp h
      rw [accepts, holds_all, all_compileMembers hbuilt members hfilters hr]
      rfl
  | _ => cases h

end Filter

/-! ### Articles -/

namespace Article

def name : Field where
  name := "name"
  kind := .text

def title : Field where
  name := "title"
  kind := .text

def score : Field where
  name := "score"
  kind := .number
  nullable := true

def tags : Field where
  name := "tags"
  kind := .text
  collection := true

def author : Field where
  name := "author"
  kind := .object
  nullable := true
  nested := some 0

def reviewers : Field where
  name := "reviewers"
  kind := .object
  collection := true
  nested := some 0

def person : RecordType := ⟨"Person", [name]⟩

def schema : Schema := ⟨[person], ⟨"Article", [title, score, tags, author, reviewers]⟩⟩

/-- Not written by Bob, tagged and reviewed, with a title to look for or a score. -/
def document : Json :=
  .object [
    ("$or", .array [
      .object [("title", .object [("$startsWith", .text "Lean")])],
      .object [("score", .object [("$between",
        .array [.number (.ofUInt32 1), .number (.ofUInt32 5)])])]]),
    ("author.name", .object [("$notIn", .array [.text "Bob"])]),
    ("reviewers", .object [("$any", .object [("$and", .array [])]), ("name", .text "Eve")]),
    ("tags", .object [("$any", .object [("$contains", .text "oo")])])]

def ofAuthor (author : Value) : Record :=
  [("title", .text "Lean"), ("tags", .list [.text "proof"]), ("author", author),
    ("reviewers", .list [.record [("name", .text "Eve")], .absent])]

theorem built : schema.Built := by
  constructor <;> simp [schema, person, name, title, score, tags, author, reviewers, Field.Built]

theorem person_shapes (s : String) :
    Schema.Shapes { schema with type := person } [("name", .text s)] := by
  refine .fields fun key f hf => ?_
  obtain rfl : f = name := by simpa [person] using Schema.mem_of_field? hf
  exact .scalar (by decide) rfl (by rintro _ ⟨⟩) (by rintro _ ⟨⟩)

theorem shapes {value : Value} (h : schema.Allows author value) :
    schema.Shapes (ofAuthor value) := by
  refine .fields fun key f hf => ?_
  have hmem : f ∈ [title, score, tags, author, reviewers] := Schema.mem_of_field? hf
  simp only [List.mem_cons, List.not_mem_nil, or_false] at hmem
  obtain rfl | rfl | rfl | rfl | rfl := hmem
  · exact .scalar (by decide) rfl (by rintro _ ⟨⟩) (by rintro _ ⟨⟩)
  · exact .absent
  · refine .list rfl fun item hitem => ?_
    obtain rfl := List.mem_singleton.mp hitem
    exact .scalar (by decide) rfl (by rintro _ ⟨⟩) (by rintro _ ⟨⟩)
  · exact h
  · refine .list rfl fun item hitem => ?_
    simp only [List.mem_cons, List.not_mem_nil, or_false] at hitem
    obtain rfl | rfl := hitem
    · exact .record rfl rfl (person_shapes "Eve")
    · exact .absent

theorem accepts_document :
    schema.Built ∧ schema.Shapes (ofAuthor (.record [("name", .text "Ann")])) ∧
      schema.Shapes (ofAuthor .absent) ∧ ∃ f, Filter.compile schema document = .ok f ∧
        f.accepts (ofAuthor (.record [("name", .text "Ann")])) = true ∧
        f.accepts (ofAuthor .absent) = false := by
  have hsigned : schema.Shapes (ofAuthor (.record [("name", .text "Ann")])) :=
    shapes (.record rfl rfl (person_shapes "Ann"))
  have hunsigned : schema.Shapes (ofAuthor .absent) := shapes .absent
  have hcompiled : (Filter.compile schema document).toBool = true := by decide +kernel
  obtain ⟨f, hcompile⟩ := toBool_eq_true.mp hcompiled
  refine ⟨built, hsigned, hunsigned, f, hcompile, ?_, ?_⟩
  · rw [Filter.accepts_compile hcompile built hsigned]
    decide +kernel
  · rw [Filter.accepts_compile hcompile built hunsigned]
    decide +kernel

end Article

end RecordQuery
