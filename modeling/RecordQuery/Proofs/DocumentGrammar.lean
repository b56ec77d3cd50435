import RecordQuery.Proofs.ConditionGrammar
import RecordQuery.Proofs.TypedFilter

/-!
# The grammar of filter documents

Which documents compile, said without the filters that they compile to: a document is an object
whose members are combinators over documents or fields with what suits them. What suits a scalar is
a condition, what suits a nested record a document of its schema, and a collection takes entries for
its elements.
-/

namespace RecordQuery

namespace Grammar

mutual

inductive Document : Schema → Json → Prop
  | object {schema : Schema} {members : List (String × Json)}
      (h : ∀ member ∈ members, Member schema member.1 member.2) : Document schema (.object members)

/-- One member of a document. -/
inductive Member : Schema → String → Json → Prop
  | join {schema : Schema} {key : String} {combinator : Combinator} {items : List Json}
      (hkey : Combinator.ofKey? key = some combinator) (h : ∀ item ∈ items, Document schema item) :
      Member schema key (.array items)
  | field {schema : Schema} {key : String} {path : Path} {value : Json}
      (hkey : Filter.startsWithDollar key = false) (hpath : schema.resolve? key = some path)
      (h : Fits schema path.leaf value) : Member schema key value

/-- The value suits a field of a record with the types of the schema. -/
inductive Fits : Schema → Field → Json → Prop
  | records {schema inner : Schema} {leaf : Field} {entries : List (String × Json)}
      (hmany : leaf.collection = true) (hinner : schema.nested? leaf = some inner)
      (h : ∀ entry ∈ entries, Entry inner entry.1 entry.2) : Fits schema leaf (.object entries)
  | scalars {schema : Schema} {leaf : Field} {entries : List (String × Json)}
      (hmany : leaf.collection = true) (hkind : leaf.kind ≠ .object)
      (h : ∀ entry ∈ entries, Text.sameName entry.1 Filter.anyKey = true ∧
        Condition leaf.kind leaf.nullable entry.2) : Fits schema leaf (.object entries)
  | record {schema inner : Schema} {leaf : Field} {value : Json}
      (hsingle : leaf.collection = false) (hinner : schema.nested? leaf = some inner)
      (h : Document inner value) : Fits schema leaf value
  | scalar {schema : Schema} {leaf : Field} {value : Json} (hsingle : leaf.collection = false)
      (hkind : leaf.kind ≠ .object) (h : Condition leaf.kind leaf.nullable value) :
      Fits schema leaf value

/-- One entry for the elements of a collection of records. -/
inductive Entry : Schema → String → Json → Prop
  | any {inner : Schema} {key : String} {value : Json}
      (hkey : Text.sameName key Filter.anyKey = true) (h : Document inner value) :
      Entry inner key value
  | member {inner : Schema} {key : String} {value : Json} (h : Member inner key value) :
      Entry inner key value

end

/-! ### What suits a field -/

theorem document_object_iff {schema : Schema} {members : List (String × Json)} :
    Document schema (.object members) ↔ ∀ member ∈ members, Member schema member.1 member.2 :=
  ⟨fun h => by cases h with | object h => exact h, .object⟩

theorem member_combinator_iff {schema : Schema} {key : String} {combinator : Combinator}
    {value : Json} (hkey : Combinator.ofKey? key = some combinator) :
    Member schema key value ↔ ∃ items, value = .array items ∧ ∀ item ∈ items, Document schema item := by
  constructor
  · intro h
    cases h with
    | join _ h => exact ⟨_, rfl, h⟩
    | field hdollar =>
        rw [Filter.ofKey?_eq_none hdollar] at hkey
        cases hkey
  · rintro ⟨items, rfl, h⟩
    exact .join hkey h

theorem member_path_iff {schema : Schema} {key : String} {value : Json}
    (hkey : Combinator.ofKey? key = none) :
    Member schema key value ↔ Filter.startsWithDollar key = false ∧
      ∃ path, schema.resolve? key = some path ∧ Fits schema path.leaf value := by
  constructor
  · intro h
    cases h with
    | join hsome =>
        rw [hkey] at hsome
        cases hsome
    | field hdollar hpath h => exact ⟨hdollar, _, hpath, h⟩
  · rintro ⟨hdollar, path, hpath, h⟩
    exact .field hdollar hpath h

section Leaf

variable {schema inner : Schema} {leaf : Field} {value : Json}

theorem fits_records_iff (hleaf : leaf.Built schema.types) (hmany : leaf.collection = true)
    (hinner : schema.nested? leaf = some inner) :
    Fits schema leaf value ↔
      ∃ entries, value = .object entries ∧ ∀ entry ∈ entries, Entry inner entry.1 entry.2 := by
  constructor
  · intro h
    cases h with
    | records _ hsame h =>
        rw [hinner] at hsame
        cases hsame
        exact ⟨_, rfl, h⟩
    | scalars _ hkind => exact absurd ((Schema.exists_nested?_iff hleaf).mp ⟨inner, hinner⟩) hkind
    | record hsingle => simp [hmany] at hsingle
    | scalar hsingle => simp [hmany] at hsingle
  · rintro ⟨entries, rfl, h⟩
    exact .records hmany hinner h

theorem fits_scalars_iff (hleaf : leaf.Built schema.types) (hmany : leaf.collection = true)
    (hinner : schema.nested? leaf = none) :
    Fits schema leaf value ↔
      ∃ entries, value = .object entries ∧ ∀ entry ∈ entries,
        Text.sameName entry.1 Filter.anyKey = true ∧ Condition leaf.kind leaf.nullable entry.2 := by
  have hkind : leaf.kind ≠ .object := by
    intro hobject
    obtain ⟨inner, hsome⟩ := (Schema.exists_nested?_iff hleaf).mpr hobject
    rw [hinner] at hsome
    cases hsome
  constructor
  · intro h
    cases h with
    | records _ hsome => simp [hinner] at hsome
    | scalars _ _ h => exact ⟨_, rfl, h⟩
    | record hsingle => simp [hmany] at hsingle
    | scalar hsingle => simp [hmany] at hsingle
  · rintro ⟨entries, rfl, h⟩
    exact .scalars hmany hkind h

theorem fits_record_iff (hleaf : leaf.Built schema.types) (hsingle : leaf.collection = false)
    (hinner : schema.nested? leaf = some inner) :
    Fits schema leaf value ↔ Document inner value := by
  constructor
  · intro h
    cases h with
    | records hmany => simp [hsingle] at hmany
    | scalars hmany => simp [hsingle] at hmany
    | record _ hsame h =>
        rw [hinner] at hsame
        cases hsame
        exact h
    | scalar _ hkind => exact absurd ((Schema.exists_nested?_iff hleaf).mp ⟨inner, hinner⟩) hkind
  · exact .record hsingle hinner

theorem fits_scalar_iff (hleaf : leaf.Built schema.types) (hsingle : leaf.collection = false)
    (hkind : leaf.kind ≠ .object) :
    Fits schema leaf value ↔ Condition leaf.kind leaf.nullable value := by
  constructor
  · intro h
    cases h with
    | records hmany => simp [hsingle] at hmany
    | scalars hmany => simp [hsingle] at hmany
    | record _ hinner => exact absurd ((Schema.exists_nested?_iff hleaf).mp ⟨_, hinner⟩) hkind
    | scalar _ _ h => exact h
  · exact .scalar hsingle hkind

end Leaf

section Entry

variable {inner : Schema} {key : String} {value : Json}

theorem not_member_anyKey (hany : Text.sameName key Filter.anyKey = true) :
    ¬ Member inner key value := by
  intro h
  have hdollar := Filter.startsWithDollar_of_sameName hany rfl
  cases h with
  | join hkey => simp [Filter.ofKey?_of_sameName hany] at hkey
  | field hplain => simp [hdollar] at hplain

theorem entry_any_iff (hany : Text.sameName key Filter.anyKey = true) :
    Entry inner key value ↔ Document inner value := by
  constructor
  · intro h
    cases h with
    | any _ h => exact h
    | member h => exact absurd h (not_member_anyKey hany)
  · exact .any hany

theorem entry_member_iff (hany : ¬ Text.sameName key Filter.anyKey = true) :
    Entry inner key value ↔ Member inner key value := by
  constructor
  · intro h
    cases h with
    | any hsame => exact absurd hsame hany
    | member h => exact h
  · exact .member

end Entry

end Grammar

/-! ### Documents that compile -/

namespace Filter

open Grammar

theorem exists_bind_map_ok {ε α β : Type} {g : α → β → β} {x : Except ε α} {y : Except ε β} :
    (∃ c, (x >>= fun a => y.map (g a)) = Except.ok c) ↔ (∃ a, x = .ok a) ∧ ∃ b, y = .ok b := by
  cases x <;> cases y <;> simp [bind, Except.bind, Except.map]

section Scalars

variable {leaf : Field} {text : String}

theorem exists_compileEntry_scalar_iff {key : String} {value : Json} :
    (∃ f, compileEntry none (.ofElement leaf) text key value = .ok f) ↔
      Text.sameName key anyKey = true ∧ Condition leaf.kind leaf.nullable value := by
  rw [compileEntry.eq_def]
  split
  next hany =>
    rw [Target.exists_compile_iff]
    exact ⟨fun h => ⟨hany, h⟩, And.right⟩
  next hany =>
    constructor
    · split <;> rintro ⟨f, ⟨⟩⟩
    · exact fun h => absurd h.1 hany

/-- The elements of a collection of scalars. -/
theorem exists_compileScalars_iff {entries : List (String × Json)} :
    (∃ filters, compileElements none (.ofElement leaf) text entries = .ok filters) ↔
      ∀ entry ∈ entries, Text.sameName entry.1 anyKey = true ∧
        Condition leaf.kind leaf.nullable entry.2 := by
  induction entries with
  | nil => simp [compileElements]
  | cons entry entries ih =>
      rw [compileElements_cons, exists_bind_map_ok, exists_compileEntry_scalar_iff, ih,
        List.forall_mem_cons]

end Scalars

section Leaf

variable {schema : Schema} {path : Path}

/-- An object suits a field if its entries or members suit the nested schema, where there is one. -/
theorem exists_compileLeaf_object_iff (hleaf : path.leaf.Built schema.types)
    {members : List (String × Json)}
    (hentries : ∀ inner, schema.nested? path.leaf = Option.some inner →
      ((∃ filters, compileElements inner (.ofElement path.leaf) path.text members = .ok filters) ↔
        ∀ entry ∈ members, Entry inner entry.1 entry.2))
    (hmembers : ∀ inner, schema.nested? path.leaf = Option.some inner →
      ((∃ filters, compileMembers inner members = .ok filters) ↔
        ∀ member ∈ members, Member inner member.1 member.2)) :
    (∃ f, compileLeaf schema path (.object members) = .ok f) ↔
      Fits schema path.leaf (.object members) := by
  rw [compileLeaf.eq_def]
  by_cases hmany : path.leaf.collection = true
  · rw [if_pos hmany, exists_map_ok]
    cases hinner : schema.nested? path.leaf with
    | some inner =>
        rw [hentries inner hinner, fits_records_iff hleaf hmany hinner]
        simp
    | none =>
        rw [exists_compileScalars_iff, fits_scalars_iff hleaf hmany hinner]
        simp
  · have hsingle : path.leaf.collection = false := by simpa using hmany
    rw [if_neg hmany]
    by_cases hkind : path.leaf.kind = .object
    · obtain ⟨inner, hinner⟩ := (Schema.exists_nested?_iff hleaf).mpr hkind
      rw [if_pos hkind, hinner, exists_map_ok, hmembers inner hinner,
        fits_record_iff hleaf hsingle hinner, document_object_iff]
    · rw [if_neg hkind, Target.exists_compile_iff, fits_scalar_iff hleaf hsingle hkind]
      rfl

/-- What is no object suits only a scalar. -/
theorem exists_compileLeaf_iff (hleaf : path.leaf.Built schema.types) {value : Json}
    (hobject : ∀ members, value ≠ .object members) :
    (∃ f, compileLeaf schema path value = .ok f) ↔ Fits schema path.leaf value := by
  by_cases hsingle : path.leaf.collection = false
  · by_cases hkind : path.leaf.kind = .object
    · obtain ⟨inner, hinner⟩ := (Schema.exists_nested?_iff hleaf).mpr hkind
      rw [fits_record_iff hleaf hsingle hinner, compileLeaf.eq_def, hsingle, hinner]
      constructor
      · cases value with
        | object members => exact absurd rfl (hobject members)
        | _ => simp [hkind]
      · intro h
        cases h with
        | object => exact absurd rfl (hobject _)
    · rw [compileLeaf_scalar hsingle hkind, Target.exists_compile_iff,
        fits_scalar_iff hleaf hsingle hkind]
      rfl
  · have hmany : path.leaf.collection = true := by simpa using hsingle
    rw [compileLeaf.eq_def, if_pos hmany]
    constructor
    · cases value with
      | object members => exact absurd rfl (hobject members)
      | _ => rintro ⟨f, ⟨⟩⟩
    · intro h
      cases h with
      | records => exact absurd rfl (hobject _)
      | scalars => exact absurd rfl (hobject _)
      | record hone => exact absurd hone hsingle
      | scalar hone => exact absurd hone hsingle

end Leaf

-- The recursion is on the JSON, like the one of the compiler; the schema varies with it.
mutual

theorem exists_compileMembers_iff {schema : Schema} (hbuilt : schema.Built)
    (members : List (String × Json)) :
    (∃ filters, compileMembers schema members = .ok filters) ↔
      ∀ member ∈ members, Member schema member.1 member.2 := by
  match members with
  | [] => simp [compileMembers]
  | (key, value) :: members =>
      rw [compileMembers, exists_pair_ok, exists_compileMember_iff hbuilt key value,
        exists_compileMembers_iff hbuilt members, List.forall_mem_cons]

theorem exists_compileMember_iff {schema : Schema} (hbuilt : schema.Built) (key : String)
    (value : Json) : (∃ f, compileMember schema key value = .ok f) ↔ Member schema key value := by
  cases hkey : Combinator.ofKey? key with
  | some combinator =>
      rw [member_combinator_iff hkey]
      match value with
      | .array items =>
          rw [compileMember_joined hkey, compileJoined, exists_map_ok,
            exists_compileDocuments_iff hbuilt items]
          simp
      | .null | .bool _ | .number _ | .text _ | .object _ =>
          simp [compileMember_joined hkey, compileJoined]
  | none =>
      rw [member_path_iff hkey]
      cases hdollar : startsWithDollar key with
      | true => simp [compileMember_reserved hkey hdollar]
      | false =>
          cases hpath : schema.resolve? key with
          | none =>
              rw [compileMember_unresolved hdollar hpath]
              simp
          | some path =>
              have hleaf : path.leaf.Built schema.types := hbuilt.leaf hpath
              rw [compileMember_path hdollar hpath, exists_map_ok]
              have hfits : (∃ f, compileLeaf schema path value = .ok f) ↔
                  Fits schema path.leaf value := by
                match value with
                | .object members =>
                    exact exists_compileLeaf_object_iff hleaf
                      (fun inner hinner => exists_compileElements_iff (hbuilt.nested hinner) members)
                      (fun inner hinner => exists_compileMembers_iff (hbuilt.nested hinner) members)
                | .null | .bool _ | .number _ | .text _ | .array _ =>
                    exact exists_compileLeaf_iff hleaf (by simp)
              rw [hfits]
              simp

theorem exists_compileDocuments_iff {schema : Schema} (hbuilt : schema.Built) {key : String}
    (items : List Json) :
    (∃ filters, compileDocuments schema key items = .ok filters) ↔
      ∀ item ∈ items, Document schema item := by
  match items with
  | [] => simp [compileDocuments]
  | .object members :: items =>
      rw [compileDocuments, exists_pair_ok, exists_map_ok, exists_compileMembers_iff hbuilt members,
        exists_compileDocuments_iff hbuilt items, List.forall_mem_cons, document_object_iff]
  | .null :: _ | .bool _ :: _ | .number _ :: _ | .text _ :: _ | .array _ :: _ =>
      constructor
      · rintro ⟨filters, ⟨⟩⟩
      · intro h
        cases h _ List.mem_cons_self

theorem exists_compileElements_iff {inner : Schema} (hbuilt : inner.Built) {target : Target}
    {text : String} (entries : List (String × Json)) :
    (∃ filters, compileElements inner target text entries = .ok filters) ↔
      ∀ entry ∈ entries, Entry inner entry.1 entry.2 := by
  match entries with
  | [] => simp [compileElements]
  | (key, value) :: entries =>
      rw [compileElements_cons, exists_bind_map_ok, exists_compileElements_iff hbuilt entries,
        List.forall_mem_cons, compileEntry.eq_def]
      refine and_congr_left fun _ => ?_
      by_cases hany : Text.sameName key anyKey = true
      · rw [if_pos hany, entry_any_iff hany]
        match value with
        | .object members =>
            rw [document_object_iff, exists_map_ok, exists_compileMembers_iff hbuilt members]
        | .null | .bool _ | .number _ | .text _ | .array _ =>
            constructor
            · rintro ⟨f, ⟨⟩⟩
            · rintro ⟨⟩
      · rw [if_neg hany, entry_member_iff hany]
        split
        next hreserved =>
          obtain ⟨hdollar, hkey⟩ := Bool.and_eq_true_iff.mp hreserved
          rw [member_path_iff (Option.isNone_iff_eq_none.mp hkey), hdollar]
          simp
        next =>
          rw [exists_map_ok]
          exact exists_compileMember_iff hbuilt key value

end

/-- **A document compiles if and only if it is null or derivable in the grammar.** -/
theorem compiles_iff_derivable {schema : Schema} (hbuilt : schema.Built) (document : Json) :
    (∃ f, compile schema document = .ok f) ↔
      document = .null ∨ Document schema document := by
  cases document with
  | null => simp [compile]
  | object members =>
      rw [compile, exists_map_ok, exists_compileMembers_iff hbuilt members, document_object_iff]
      simp
  | _ =>
      constructor
      · rintro ⟨f, ⟨⟩⟩
      · rintro (⟨⟨⟩⟩ | ⟨⟨⟩⟩)

end Filter

/-- A collection does not take a raw value. -/
theorem Article.derives_document :
    schema.Built ∧ Grammar.Document schema document ∧
      ¬ Grammar.Document schema (.object [("tags", .text "proof")]) := by
  refine ⟨built, ?_, ?_⟩
  · have hcompiled : (Filter.compile schema document).toBool = true := by decide +kernel
    have hderivable := (Filter.compiles_iff_derivable built document).mp (toBool_eq_true.mp hcompiled)
    exact hderivable.resolve_left (by rintro ⟨⟩)
  · intro hderivable
    have hrejected : (Filter.compile schema (.object [("tags", .text "proof")])).toBool = false := by
      decide +kernel
    have hcompiled := toBool_eq_true.mpr
      ((Filter.compiles_iff_derivable built _).mpr (Or.inr hderivable))
    simp [hrejected] at hcompiled

end RecordQuery
