import RecordQuery.Derive.Schema
import RecordQuery.Proofs.Boundary

/-!
# Entries of derived schemas

Of the attributes of a field, the first one named `seek` decides about its entry. The items of its
list may stand in any order: one that skips the field takes its entry away, whatever else the list
says. Later `seek` attributes are not read.
-/

namespace RecordQuery.Derive

/-! ### Reported errors -/

/-- A step gives a value, unless it ends with a reported error. All errors are reported but the one
for a name that makes no name of a constant. -/
def Gives {α : Type} (x : Except DeriveError α) (a : α) : Prop :=
  x = .ok a ∨ ∃ error, x = .error error ∧ ∀ name, error ≠ .noConstantName name

namespace Gives

variable {α β : Type} {x : Except DeriveError α} {f : α → Except DeriveError β} {a : α} {b : β}

theorem reported {error : DeriveError} (h : ∀ name, error ≠ .noConstantName name) :
    Gives (.error error) a :=
  Or.inr ⟨error, rfl, h⟩

theorem eq_of_ok (h : Gives x a) {other : α} (hx : x = .ok other) : other = a := by
  rcases h with hok | ⟨error, herror, -⟩
  · rw [hok] at hx
    exact (Except.ok.inj hx).symm
  · rw [herror] at hx
    cases hx

theorem ne_noConstantName (h : Gives x a) (name : String) : x ≠ .error (.noConstantName name) := by
  intro hx
  rcases h with hok | ⟨error, herror, hne⟩
  · rw [hok] at hx
    cases hx
  · rw [herror] at hx
    exact hne name (Except.error.inj hx)

theorem bind (hx : Gives x a) (hf : Gives (f a) b) : Gives (x >>= f) b := by
  rcases hx with rfl | ⟨error, rfl, hne⟩
  · exact hf
  · exact reported hne

theorem ofName_bind {word : String} {f : SeekKind → Except DeriveError β}
    (hf : ∀ kind, SeekKind.ofName? word = some kind → Gives (f kind) b) :
    Gives (SeekKind.ofName word >>= f) b := by
  rw [SeekKind.ofName]
  cases hkind : SeekKind.ofName? word with
  | none => exact reported (by simp)
  | some kind => exact hf kind hkind

end Gives

/-! ### Items of a list -/

namespace Attribute

def isSeek (a : Attribute) : Bool :=
  a.name.single? == some "seek"

/-- The items of the list of an attribute; none if it has no list or one of another form. -/
def items : Attribute → List Attribute
  | .nested _ tokens =>
    match (Reader.separated (Grammar.forTokens tokens).oneAttribute).run { ahead := tokens } with
    | some (items, _) => items
    | none => []
  | _ => []

def isSkip : Attribute → Bool
  | .flag name => name.single? == some "skip"
  | _ => false

def kind? : Attribute → Option SeekKind
  | .flag name => name.single?.bind SeekKind.ofName?
  | .valued name (some value) =>
    if name.single? = some "ty" then SeekKind.ofName? value else none
  | _ => none

/-- The name in queries that an item tells. -/
def rename? : Attribute → Option String
  | .valued name (some value) => if name.single? = some "rename" then some value else none
  | _ => none

end Attribute

namespace SeekOptions

/-- Options that win over older ones, except that a skip stays. -/
def onto (newer older : SeekOptions) : SeekOptions where
  kind := newer.kind.or older.kind
  skip := newer.skip || older.skip
  rename := newer.rename.or older.rename

def ofItem (item : Attribute) : SeekOptions where
  kind := item.kind?
  skip := item.isSkip
  rename := item.rename?

/-- The options that a list tells: the last kind and the last name, and whether any item skips. -/
def ofItems (items : List Attribute) : SeekOptions where
  kind := (items.filterMap Attribute.kind?).getLast?
  skip := items.any Attribute.isSkip
  rename := (items.filterMap Attribute.rename?).getLast?

theorem onto_assoc (newest newer older : SeekOptions) :
    (newest.onto newer).onto older = newest.onto (newer.onto older) := by
  simp [onto, Option.or_assoc, Bool.or_assoc]

theorem onto_empty (options : SeekOptions) : options.onto {} = options := by
  simp [onto]

theorem empty_onto (options : SeekOptions) : onto {} options = options := by
  simp [onto]

theorem getLast?_filterMap_cons {α β : Type} (f : α → Option β) (x : α) (xs : List α) :
    ((x :: xs).filterMap f).getLast? = (xs.filterMap f).getLast?.or (f x) := by
  cases hx : f x with
  | none => simp [hx]
  | some y =>
      rw [List.filterMap_cons_some hx, List.getLast?_cons]
      cases (xs.filterMap f).getLast? <;> rfl

theorem ofItems_cons (item : Attribute) (items : List Attribute) :
    ofItems (item :: items) = (ofItems items).onto (ofItem item) := by
  simp only [ofItems, onto, ofItem, getLast?_filterMap_cons, List.any_cons, Bool.or_comm]

theorem add_gives (options : SeekOptions) (item : Attribute) :
    Gives (options.add item) ((ofItem item).onto options) := by
  cases item with
  | flag name =>
      rw [add]
      split
      · rename_i hname
        -- the word that skips names no kind
        left
        simp [onto, ofItem, Attribute.kind?, Attribute.isSkip, Attribute.rename?, hname,
          SeekKind.ofName?]
      · rename_i word hskip hname
        have hword : word ≠ "skip" := hskip
        refine Gives.ofName_bind fun kind hkind => Or.inl ?_
        simp [onto, ofItem, Attribute.kind?, Attribute.isSkip, Attribute.rename?, hname, hword,
          hkind]
      · exact Gives.reported (by simp)
  | valued name value =>
      cases value with
      | none => exact Gives.reported (by simp)
      | some value =>
          rw [add]
          split
          · rename_i hname
            left
            simp [onto, ofItem, Attribute.kind?, Attribute.isSkip, Attribute.rename?, hname]
          · rename_i hname
            refine Gives.ofName_bind fun kind hkind => Or.inl ?_
            simp [onto, ofItem, Attribute.kind?, Attribute.isSkip, Attribute.rename?, hname, hkind]
          · exact Gives.reported (by simp)
  | nested name tokens => exact Gives.reported (by simp)

/-- Items that are added to options win over them as a whole. -/
theorem addAll_gives (options : SeekOptions) (items : List Attribute) :
    Gives (options.addAll items) ((ofItems items).onto options) := by
  induction items generalizing options with
  | nil => exact Or.inl (congrArg Except.ok (empty_onto options).symm)
  | cons item items ih =>
      rw [addAll, ofItems_cons, onto_assoc]
      exact (add_gives options item).bind (ih _)

theorem ofTokens_gives (name : AttributeName) (tokens : List Token) :
    Gives (ofTokens tokens) (ofItems (Attribute.nested name tokens).items) := by
  rw [ofTokens]
  split
  · rename_i items reading hread
    have hitems : (Attribute.nested name tokens).items = items := by rw [Attribute.items, hread]
    rw [hitems]
    refine (addAll_gives {} items).bind ?_
    rw [onto_empty]
    split
    · exact Gives.reported (by simp)
    · exact Or.inl rfl
  · exact Gives.reported (by simp)

theorem ofAttributes?_gives (attributes : List Attribute) :
    Gives (ofAttributes? attributes)
      ((attributes.find? Attribute.isSeek).map fun a => ofItems a.items) := by
  have hsame : attributes.find? (fun a => a.name.single? == some "seek") =
      attributes.find? Attribute.isSeek := rfl
  rw [ofAttributes?, hsame]
  cases attributes.find? Attribute.isSeek with
  | none => exact Or.inl rfl
  | some a =>
      cases a with
      | flag name => exact Gives.reported (by simp)
      | valued name value => exact Gives.reported (by simp)
      | nested name tokens => exact (ofTokens_gives name tokens).bind (Or.inl rfl)

end SeekOptions

/-! ### Entries of fields -/

namespace DeclaredField

/-- The items of the first `seek` attribute. -/
def leading (field : DeclaredField) : List Attribute :=
  ((field.attributes.find? Attribute.isSeek).map Attribute.items).getD []

/-- Some `seek` attribute says to skip the field. -/
def skipped (field : DeclaredField) : Bool :=
  field.attributes.any fun a => a.isSeek && a.items.any Attribute.isSkip

/-- The entry with some options: they have to tell a kind and not to skip. -/
def entryWith? (field : DeclaredField) (options : SeekOptions) : Option Entry :=
  if options.skip then none
  else options.kind.map fun kind =>
    { field := field.name, name := options.rename.getD field.name, kind,
      shape := field.type.shape.1, element := field.type.shape.2.tokens }

/-- The entry that the first `seek` attribute describes. -/
def entryTold? (field : DeclaredField) : Option Entry :=
  field.entryWith? (SeekOptions.ofItems field.leading)

/-- The first `seek` attribute skips the field or tells no kind. -/
def Hidden (field : DeclaredField) : Prop :=
  field.leading.any Attribute.isSkip = true ∨ ∀ item ∈ field.leading, item.kind? = none

theorem entryTold?_eq_none_iff {field : DeclaredField} :
    field.entryTold? = none ↔ field.Hidden := by
  rw [entryTold?, entryWith?, Hidden]
  by_cases hskip : (SeekOptions.ofItems field.leading).skip
  · rw [if_pos hskip]
    exact iff_of_true rfl (Or.inl hskip)
  · have hleading : ¬ field.leading.any Attribute.isSkip = true := hskip
    rw [if_neg hskip, Option.map_eq_none_iff, SeekOptions.ofItems, List.getLast?_eq_none_iff,
      List.filterMap_eq_nil_iff, or_iff_right hleading]

theorem field_of_entryTold? {field : DeclaredField} {entry : Entry}
    (h : field.entryTold? = some entry) : entry.field = field.name := by
  rw [entryTold?, entryWith?] at h
  split at h
  · cases h
  · obtain ⟨kind, -, rfl⟩ := Option.map_eq_some_iff.mp h
    rfl

def Readable (field : DeclaredField) : Prop :=
  ∃ options, SeekOptions.ofAttributes? field.attributes = .ok options

/-- The field makes its entry, if it has one, with a name of a constant. -/
def Accepted (field : DeclaredField) : Prop :=
  field.Readable ∧ ∀ entry, field.entryTold? = some entry → isWord entry.constant.toList = true

end DeclaredField

theorem entryOf?_of_readable {field : DeclaredField} (h : field.Readable) :
    entryOf? field = match field.entryTold? with
      | some entry =>
        if isWord entry.constant.toList then .ok (some entry)
        else .error (.noConstantName entry.name)
      | none => .ok none := by
  obtain ⟨options, hoptions⟩ := h
  rw [entryOf?, hoptions, (SeekOptions.ofAttributes?_gives _).eq_of_ok hoptions, DeclaredField.entryTold?,
    DeclaredField.leading]
  cases field.attributes.find? Attribute.isSeek with
  | none => rfl
  | some a =>
      dsimp only [Option.map_some, Option.getD_some]
      obtain ⟨kind, skip, rename⟩ := SeekOptions.ofItems a.items
      cases kind <;> cases skip <;> rfl

theorem entryOf?_eq_ok {field : DeclaredField} {found : Option Entry} :
    entryOf? field = .ok found ↔ field.Accepted ∧ field.entryTold? = found := by
  by_cases hreadable : field.Readable
  · rw [entryOf?_of_readable hreadable, DeclaredField.Accepted]
    cases field.entryTold? with
    | none => simp [hreadable]
    | some entry => by_cases hword : isWord entry.constant.toList <;> simp [hreadable, hword]
  · have herror : ¬ entryOf? field = .ok found := by
      intro h
      rw [entryOf?] at h
      obtain ⟨options, hoptions, -⟩ := bind_eq_ok.mp h
      exact hreadable ⟨options, hoptions⟩
    exact iff_of_false herror fun h => hreadable h.1.1

/-- The fields of a struct give their entries exactly if each is accepted. -/
theorem entriesOf_eq_ok {fields : List DeclaredField} {entries : List Entry} :
    entriesOf fields = .ok entries ↔
      (∀ field ∈ fields, field.Accepted) ∧ entries = fields.filterMap DeclaredField.entryTold? := by
  induction fields generalizing entries with
  | nil => simp [entriesOf, pure, Except.pure, eq_comm]
  | cons field fields ih =>
      simp only [entriesOf, bind_eq_ok, entryOf?_eq_ok, ih, pure, Except.pure, Except.ok.injEq,
        List.forall_mem_cons]
      constructor
      · rintro ⟨_, ⟨hfield, rfl⟩, _, ⟨hfields, rfl⟩, rfl⟩
        exact ⟨⟨hfield, hfields⟩, by cases h : field.entryTold? <;> simp [h]⟩
      · rintro ⟨⟨hfield, hfields⟩, rfl⟩
        exact ⟨_, ⟨hfield, rfl⟩, _, ⟨hfields, rfl⟩, by cases h : field.entryTold? <;> simp [h]⟩

namespace DerivedSchema

theorem ofDeclaration_eq_ok {declaration : Declaration} {schema : DerivedSchema} :
    ofDeclaration declaration = .ok schema ↔ ∃ fields,
      declaration = ⟨schema.name, false, .named fields⟩ ∧
        (∀ field ∈ fields, field.Accepted) ∧
          schema.entries = fields.filterMap DeclaredField.entryTold? := by
  obtain ⟨name, generic, body⟩ := declaration
  cases generic with
  | true => simp [ofDeclaration]
  | false => cases body with
    | unnamed => simp [ofDeclaration]
    | other => simp [ofDeclaration]
    | named fields =>
        rw [ofDeclaration, if_neg (by simp), map_eq_ok]
        constructor
        · rintro ⟨entries, hentries, rfl⟩
          exact ⟨fields, rfl, entriesOf_eq_ok.mp hentries⟩
        · rintro ⟨_, hdeclaration, hentries⟩
          cases hdeclaration
          exact ⟨schema.entries, entriesOf_eq_ok.mpr hentries, rfl⟩

theorem ofDescription_eq_ok {description : Description} {schema : DerivedSchema} :
    ofDescription description = .ok schema ↔ ∃ fields,
      Declaration.ofText? description.source = some ⟨schema.name, false, .named fields⟩ ∧
        (∀ field ∈ fields, field.Accepted) ∧
          schema.entries = fields.filterMap DeclaredField.entryTold? := by
  rw [ofDescription]
  cases Declaration.ofText? description.source with
  | none => simp
  | some declaration => simp [ofDeclaration_eq_ok]

/-- **Skipped fields and their entries.** A field that some `seek` attribute skips leaves no trace
in the derived schema, which is that of the struct without the field, exactly if the first of these
attributes skips it, among other items and in any order, or tells no kind. A skip that stands only
in a later attribute is ignored: the field gets its entry. -/
theorem ofDescription_skipped {description : Description} {schema : DerivedSchema}
    (h : ofDescription description = .ok schema) :
    ∃ fields, Declaration.ofText? description.source = some ⟨schema.name, false, .named fields⟩ ∧
      ∀ before field after, fields = before ++ field :: after → field.skipped = true →
        (field.Hidden →
          ofDeclaration ⟨schema.name, false, .named (before ++ after)⟩ = .ok schema) ∧
        (¬ field.Hidden → ∃ entry, entry.field = field.name ∧
          schema.entries = before.filterMap DeclaredField.entryTold? ++
            entry :: after.filterMap DeclaredField.entryTold?) := by
  obtain ⟨fields, hfields, haccepted, hentries⟩ := ofDescription_eq_ok.mp h
  refine ⟨fields, hfields, ?_⟩
  rintro before field after rfl -
  constructor
  · intro hhidden
    have hnone : field.entryTold? = none := DeclaredField.entryTold?_eq_none_iff.mpr hhidden
    refine ofDeclaration_eq_ok.mpr ⟨before ++ after, rfl, ?_, ?_⟩
    · intro other hother
      exact haccepted other (by grind)
    · rw [hentries, List.filterMap_append, List.filterMap_cons_none hnone, List.filterMap_append]
  · intro hshown
    have hsome : field.entryTold? ≠ none := mt DeclaredField.entryTold?_eq_none_iff.mp hshown
    obtain ⟨entry, hentry⟩ := Option.ne_none_iff_exists'.mp hsome
    refine ⟨entry, DeclaredField.field_of_entryTold? hentry, ?_⟩
    rw [hentries, List.filterMap_append, List.filterMap_cons_some hentry]

end DerivedSchema

/-! ### A skip in a later attribute -/

namespace Account

/-- Two fields with a kind and a skip, in one attribute and in two. -/
def described : Description where
  name := "Account"
  fields := [("pin", "u32", ["seek(skip, Number)"]),
    ("password", "String", ["seek(String)", "seek(skip)"])]

theorem derived : ∃ schema, DerivedSchema.ofDescription described = .ok schema ∧
    schema.entries.map Entry.field = ["password"] ∧
    schema.constants = [("PASSWORD", "password")] := by
  have hparts : (DerivedSchema.ofDescription described).toOption.map
      (fun schema => (schema.entries.map Entry.field, schema.constants)) =
        some (["password"], [("PASSWORD", "password")]) := by decide +kernel
  obtain ⟨schema, hschema, hparts⟩ := toOption_map_eq_some.mp hparts
  exact ⟨schema, hschema, Prod.mk.inj hparts⟩

/-- The first attribute of the PIN skips it. -/
theorem pin_hidden : ∃ schema, DerivedSchema.ofDescription described = .ok schema ∧
    schema.entries.map Entry.field = ["password"] ∧
    ∃ fields, Declaration.ofText? described.source = some ⟨schema.name, false, .named fields⟩ ∧
      ∀ before field after, fields = before ++ field :: after → field.skipped = true →
        (field.Hidden →
          DerivedSchema.ofDeclaration ⟨schema.name, false, .named (before ++ after)⟩ =
            .ok schema) ∧
        (¬ field.Hidden → ∃ entry, entry.field = field.name ∧
          schema.entries = before.filterMap DeclaredField.entryTold? ++
            entry :: after.filterMap DeclaredField.entryTold?) := by
  obtain ⟨schema, hschema, hentries, -⟩ := derived
  exact ⟨schema, hschema, hentries, DerivedSchema.ofDescription_skipped hschema⟩

/-- The names of the fields of a declared struct, each with whether an attribute skips it. -/
def skips (declaration : Declaration) : List (String × Bool) :=
  match declaration.body with
  | .named fields => fields.map fun field => (field.name, field.skipped)
  | _ => []

/-- The password is skipped too, but becomes queryable. -/
theorem password_exposed :
    (Declaration.ofText? described.source).map skips =
      some [("pin", true), ("password", true)] ∧
    ∃ schema, DerivedSchema.ofDescription described = .ok schema ∧
      schema.entries.map Entry.field = ["password"] ∧
      schema.constants = [("PASSWORD", "password")] :=
  ⟨by decide +kernel, derived⟩

end Account

end RecordQuery.Derive
