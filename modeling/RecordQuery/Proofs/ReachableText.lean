import Mathlib
import RecordQuery.Proofs.DeclaredShape
import RecordQuery.Proofs.NormalFilter

/-!
# Texts within reach of a search

A search that names no field looks at every text field that nested types lead to within a depth. It
finds a record if and only if such a chain of fields leads from the record to a text with the
keyword, as long as the names on the chain hold no dot: a dot in a name is read as one more hop.
-/

namespace RecordQuery

/-- Nested types lead along a chain of fields to a leaf. -/
inductive Schema.Leads : Schema → List Field → Field → Prop
  | leaf {schema : Schema} {f : Field} (hf : f ∈ schema.type.fields) : Leads schema [] f
  | hop {schema inner : Schema} {f leaf : Field} {hops : List Field}
      (hf : f ∈ schema.type.fields) (hinner : schema.nested? f = some inner)
      (h : Leads inner hops leaf) : Leads schema (f :: hops) leaf

/-- What a leaf holds where a chain of fields leads. Behind a nested record the chain goes on in
it, behind a collection in any element that is a record. `read` gives the value of a field. -/
inductive Record.Finds (read : Record → String → Value) (leaf : Field) :
    Record → List Field → Value → Prop
  | leaf {r : Record} (hsingle : leaf.collection = false) : Finds read leaf r [] (read r leaf.name)
  | element {r : Record} {items : List Value} {value : Value} (hmany : leaf.collection = true)
      (hread : read r leaf.name = .list items) (hmem : value ∈ items) : Finds read leaf r [] value
  | nested {r inner : Record} {hop : Field} {hops : List Field} {value : Value}
      (hsingle : hop.collection = false) (hread : read r hop.name = .record inner)
      (h : Finds read leaf inner hops value) : Finds read leaf r (hop :: hops) value
  | entry {r inner : Record} {hop : Field} {hops : List Field} {items : List Value}
      {value : Value} (hmany : hop.collection = true) (hread : read r hop.name = .list items)
      (hmem : .record inner ∈ items) (h : Finds read leaf inner hops value) :
      Finds read leaf r (hop :: hops) value

theorem Schema.Leads.named {names : String → Prop} {schema : Schema} {hops : List Field}
    {leaf : Field} (h : schema.Leads hops leaf) (hnamed : schema.Named names) :
    ∀ f ∈ hops ++ [leaf], names f.name := by
  induction h with
  | leaf hf => exact List.forall_mem_singleton.mpr (hnamed.type _ hf)
  | hop hf hinner _ ih =>
      exact List.forall_mem_cons.mpr ⟨hnamed.type _ hf, ih (hnamed.nested hinner)⟩

namespace Record

variable {read : Record → String → Value} {leaf hop : Field} {hops : List Field} {r : Record}
  {value : Value}

theorem finds_nil :
    r.Finds read leaf [] value ↔
      if leaf.collection then ∃ items, read r leaf.name = .list items ∧ value ∈ items
      else value = read r leaf.name := by
  constructor
  · intro h
    cases h with
    | leaf hsingle => simp [hsingle]
    | element hmany hread hmem => simp [hmany, hread, hmem]
  · intro h
    split at h
    next hmany =>
      obtain ⟨items, hread, hmem⟩ := h
      exact .element hmany hread hmem
    next hsingle =>
      subst h
      exact .leaf (by simpa using hsingle)

theorem finds_cons :
    r.Finds read leaf (hop :: hops) value ↔
      if hop.collection then ∃ items, read r hop.name = .list items ∧
        ∃ inner : Record, .record inner ∈ items ∧ inner.Finds read leaf hops value
      else ∃ inner : Record, read r hop.name = .record inner ∧
        inner.Finds read leaf hops value := by
  constructor
  · intro h
    cases h with
    | nested hsingle hread h =>
        rw [if_neg (by simp [hsingle])]
        exact ⟨_, hread, h⟩
    | entry hmany hread hmem h =>
        rw [if_pos hmany]
        exact ⟨_, hread, _, hmem, h⟩
  · intro h
    split at h
    next hmany =>
      obtain ⟨items, hread, inner, hmem, h⟩ := h
      exact .entry hmany hread hmem h
    next hsingle =>
      obtain ⟨inner, hread, h⟩ := h
      exact .nested (by simpa using hsingle) hread h

/-- Two ways to read that agree on the names of a chain find the same values along it. -/
theorem finds_congr {other : Record → String → Value}
    (h : ∀ f ∈ hops ++ [leaf], ∀ r, read r f.name = other r f.name) :
    r.Finds read leaf hops value ↔ r.Finds other leaf hops value := by
  induction hops generalizing r with
  | nil => simp only [finds_nil, h leaf (by simp)]
  | cons hop hops ih =>
      have hrest : ∀ inner : Record,
          inner.Finds read leaf hops value ↔ inner.Finds other leaf hops value :=
        fun inner => ih fun f hf => h f (List.mem_cons_of_mem hop hf)
      simp only [finds_cons, h hop (by simp), hrest]

end Record

/-! ### Filters at paths -/

namespace Clause

theorem containsPart_iff {part cs : List Char} : containsPart part cs = true ↔ part <:+: cs := by
  induction cs with
  | nil => simp [containsPart]
  | cons c cs ih => rw [containsPart, Bool.or_eq_true, List.isPrefixOf_iff_prefix, ih,
      List.infix_cons_iff]

/-- A value contains a part, case aside, if it is a text whose lower-case form does. -/
theorem holds_contains_iff {field : Option String} {part : String} {value : Value} :
    holds ⟨field, .contains, .text part, true⟩ value = true ↔
      ∃ s, value = .text s ∧ (Text.lower part).toList <:+: (Text.lower s).toList := by
  cases value with
  | text s =>
      change containsPart (Text.lowerChars part.toList) (Text.lowerChars s.toList) = true ↔ _
      simp [containsPart_iff, Text.lower]
  | _ => simp [holds]

end Clause

namespace Filter

section

variable {name : String} {f : Filter} {r : Record} {value : Value}

theorem some_holds_iff :
    (Filter.some name f).holds (.record r) = true ↔ ∃ items, r.readPath name = .list items ∧
      ∃ item ∈ items, f.holds (.ofElement item) = true := by
  rw [holds, Subject.read]
  cases r.readPath name <;> simp

theorem scope_holds_iff :
    (Filter.scope name f).holds (.record r) = true ↔
      ∃ inner, r.readPath name = .record inner ∧ f.holds (.record inner) = true := by
  rw [holds, Subject.read]
  cases r.readPath name <;> simp

end

section Path

variable {hop leaf : Field} {hops : List Field} {op : Op} {operand : Operand} {ignoreCase : Bool}

theorem atPath_nil :
    atPath ⟨[], leaf⟩ op operand ignoreCase =
      if leaf.collection then .some leaf.name (.clause ⟨none, op, operand, ignoreCase⟩)
      else .clause ⟨Option.some leaf.name, op, operand, ignoreCase⟩ :=
  rfl

theorem atPath_cons :
    atPath ⟨hop :: hops, leaf⟩ op operand ignoreCase =
      if hop.collection then .some hop.name (atPath ⟨hops, leaf⟩ op operand ignoreCase)
      else .scope hop.name (atPath ⟨hops, leaf⟩ op operand ignoreCase) :=
  rfl

variable (habsent : Clause.holds ⟨none, op, operand, ignoreCase⟩ .absent = false)

include habsent

/-- Nothing is found in an element that is no record. -/
theorem atPath_holds_element (value : Value) :
    (atPath ⟨hops, leaf⟩ op operand ignoreCase).holds (.element value) = false := by
  cases hops with
  | nil =>
      rw [atPath_nil]
      split
      · rfl
      · exact habsent
  | cons hop hops =>
      rw [atPath_cons]
      split <;> rfl

/-- **A filter at a path accepts the records in which the path finds a value that satisfies its
clause**, if neither an absent value nor a record satisfies it. -/
theorem accepts_atPath
    (hrecord : ∀ r, Clause.holds ⟨none, op, operand, ignoreCase⟩ (.record r) = false)
    {path : Path} {r : Record} :
    (atPath path op operand ignoreCase).accepts r = true ↔
      ∃ value, r.Finds Record.readPath path.leaf path.before value ∧
        Clause.holds ⟨none, op, operand, ignoreCase⟩ value = true := by
  obtain ⟨hops, leaf⟩ := path
  rw [accepts]
  induction hops generalizing r with
  | nil =>
      have hitem : ∀ item : Value,
          (Filter.clause ⟨none, op, operand, ignoreCase⟩).holds (.ofElement item) =
            Clause.holds ⟨none, op, operand, ignoreCase⟩ item := by
        intro item
        cases item with
        | record r => exact habsent.trans (hrecord r).symm
        | _ => rfl
      rw [atPath_nil]
      simp only [Record.finds_nil]
      split
      next => simp only [some_holds_iff, hitem]; grind
      next =>
        rw [exists_eq_left]
        rfl
  | cons hop hops ih =>
      rw [atPath_cons]
      simp only [Record.finds_cons]
      split
      next =>
        rw [some_holds_iff]
        constructor
        · rintro ⟨items, hread, item, hitem, h⟩
          cases item with
          | record inner =>
              obtain ⟨value, hfinds, hvalue⟩ := ih.mp h
              exact ⟨value, ⟨items, hread, inner, hitem, hfinds⟩, hvalue⟩
          | _ => exact absurd h (by simp [Subject.ofElement, atPath_holds_element habsent])
        · rintro ⟨value, ⟨items, hread, inner, hitem, hfinds⟩, hvalue⟩
          exact ⟨items, hread, .record inner, hitem, ih.mpr ⟨value, hfinds, hvalue⟩⟩
      next =>
        rw [scope_holds_iff]
        constructor
        · rintro ⟨inner, hread, h⟩
          obtain ⟨value, hfinds, hvalue⟩ := ih.mp h
          exact ⟨value, ⟨inner, hread, hfinds⟩, hvalue⟩
        · rintro ⟨value, ⟨inner, hread, hfinds⟩, hvalue⟩
          exact ⟨inner, hread, ih.mpr ⟨value, hfinds, hvalue⟩⟩

end Path

end Filter

/-! ### Discovered fields -/

/-- Behind at most `depth` fields the record has a text with the keyword, case aside. -/
def Schema.Shows (schema : Schema) (read : Record → String → Value) (depth : Int)
    (keyword : String) (r : Record) : Prop :=
  ∃ hops leaf s, schema.Leads hops leaf ∧ leaf.kind = .text ∧ hops.length ≤ depth ∧
    r.Finds read leaf hops (.text s) ∧ (Text.lower keyword).toList <:+: (Text.lower s).toList

namespace Search

variable {schema : Schema}

/-- **The discovered paths are the chains to text fields within the depth.** -/
theorem mem_discover (hbuilt : schema.Built) {before : List Field} {depth : Nat} {path : Path} :
    path ∈ discover schema before depth ↔
      ∃ hops leaf, path = ⟨before ++ hops, leaf⟩ ∧ schema.Leads hops leaf ∧ leaf.kind = .text ∧
        hops.length ≤ depth := by
  induction depth generalizing schema before with
  | zero =>
      rw [discover, List.mem_filterMap]
      constructor
      · rintro ⟨f, hf, h⟩
        split at h
        next hkind =>
          cases h
          exact ⟨[], f, by simp, .leaf hf, hkind, le_rfl⟩
        next => cases h
      · rintro ⟨hops, leaf, rfl, hleads, hkind, hlength⟩
        obtain rfl := List.length_eq_zero_iff.mp (Nat.le_zero.mp hlength)
        cases hleads with
        | leaf hf => exact ⟨leaf, hf, by simp [hkind]⟩
  | succ depth ih =>
      rw [discover, List.mem_flatMap]
      constructor
      · rintro ⟨f, hf, h⟩
        split at h
        next hkind =>
          obtain rfl := List.mem_singleton.mp h
          exact ⟨[], f, by simp, .leaf hf, hkind, Nat.zero_le _⟩
        next =>
          split at h
          next inner hinner =>
            obtain ⟨hops, leaf, rfl, hleads, hkind, hlength⟩ := (ih (hbuilt.nested hinner)).mp h
            exact ⟨f :: hops, leaf, by simp, .hop hf hinner hleads, hkind, by simpa using hlength⟩
          next => cases h
      · rintro ⟨hops, leaf, rfl, hleads, hkind, hlength⟩
        cases hleads with
        | leaf hf => exact ⟨leaf, hf, by simp [hkind]⟩
        | @hop _ inner f _ hops hf hinner hleads =>
            have hobject : f.kind = .object :=
              (Schema.exists_nested?_iff (hbuilt.type f hf)).mp ⟨inner, hinner⟩
            refine ⟨f, hf, ?_⟩
            rw [if_neg (by simp [hobject]), hinner]
            exact (ih (hbuilt.nested hinner)).mpr
              ⟨hops, leaf, by simp, hleads, hkind, by simpa using hlength⟩

/-- A search accepts what one of its targets finds. -/
theorem accepts_iff_target {keyword : String} {names : Option (List String)} {depth : Int}
    {f : Filter} (h : compile schema keyword names depth = .ok f) (r : Record) :
    f.accepts r = true ↔ ∃ path ∈ targets schema names depth.toNat,
      (Filter.atPath path .contains (.text keyword) true).accepts r = true := by
  rw [compile] at h
  split at h
  · cases h
  · split at h
    next hnone =>
      cases h
      simp [hnone, Filter.accepts, Filter.holds]
    next =>
      cases h
      simp [Filter.accepts, Filter.holds_any]

/-- Nothing absent and no record contains a text. -/
theorem accepts_target {path : Path} {keyword : String} {r : Record} :
    (Filter.atPath path .contains (.text keyword) true).accepts r = true ↔
      ∃ s, r.Finds Record.readPath path.leaf path.before (.text s) ∧
        (Text.lower keyword).toList <:+: (Text.lower s).toList := by
  rw [Filter.accepts_atPath rfl fun _ => rfl]
  simp only [Clause.holds_contains_iff]
  constructor
  · rintro ⟨value, hfinds, s, rfl, hpart⟩
    exact ⟨s, hfinds, hpart⟩
  · rintro ⟨s, hfinds, hpart⟩
    exact ⟨.text s, hfinds, s, rfl, hpart⟩

theorem targets_of_unnamed {names : Option (List String)} (h : names.getD [] = []) (depth : Nat) :
    targets schema names depth = discover schema [] depth := by
  match names with
  | none => rfl
  | some [] => rfl
  | some (_ :: _) => cases h

/-- **A search without named fields finds the reachable texts.** On every schema a field whose name
holds a dot is read like a chain of nested records. -/
theorem finds_reachable (hbuilt : schema.Built) {depth : Int} (hdepth : 0 ≤ depth)
    {names : Option (List String)} (hnames : names.getD [] = []) (keyword : String) :
    ∃ f, compile schema keyword names depth = .ok f ∧
      (∀ r, f.accepts r = true ↔ schema.Shows Record.readPath depth keyword r) ∧
      ((∀ hops leaf, schema.Leads hops leaf → leaf.kind = .text → hops.length ≤ depth →
          Path.Undotted ⟨hops, leaf⟩) →
        ∀ r, f.accepts r = true ↔ schema.Shows Record.read depth keyword r) ∧
      ((∀ hops leaf, schema.Leads hops leaf → leaf.kind = .text → depth < hops.length) →
        f = .const false) := by
  have htargets : targets schema names depth.toNat = discover schema [] depth.toNat :=
    targets_of_unnamed hnames depth.toNat
  have hlength : ∀ hops : List Field, hops.length ≤ depth.toNat ↔ (hops.length : Int) ≤ depth := by
    intro hops
    omega
  obtain ⟨f, hf⟩ : ∃ f, compile schema keyword names depth = .ok f := by
    rw [compile, if_neg (by omega)]
    split <;> exact ⟨_, rfl⟩
  have hshows : ∀ r, f.accepts r = true ↔ schema.Shows Record.readPath depth keyword r := by
    intro r
    rw [accepts_iff_target hf, htargets]
    constructor
    · rintro ⟨path, hpath, haccepts⟩
      obtain ⟨hops, leaf, rfl, hleads, hkind, hdeep⟩ := (mem_discover hbuilt).mp hpath
      obtain ⟨s, hfinds, hpart⟩ := accepts_target.mp haccepts
      exact ⟨hops, leaf, s, hleads, hkind, (hlength hops).mp hdeep, hfinds, hpart⟩
    · rintro ⟨hops, leaf, s, hleads, hkind, hdeep, hfinds, hpart⟩
      have hpath : ⟨hops, leaf⟩ ∈ discover schema [] depth.toNat :=
        (mem_discover hbuilt).mpr ⟨hops, leaf, rfl, hleads, hkind, (hlength hops).mpr hdeep⟩
      exact ⟨_, hpath, accepts_target.mpr ⟨s, hfinds, hpart⟩⟩
  refine ⟨f, hf, hshows, ?_, ?_⟩
  · intro hundotted r
    rw [hshows]
    refine exists₃_congr fun hops leaf s => ?_
    refine and_congr_right fun hleads => and_congr_right fun hkind => and_congr_right fun hdeep => ?_
    have hread : ∀ f ∈ hops ++ [leaf], ∀ r : Record, r.readPath f.name = r.read f.name :=
      fun f hmem => Record.readPath_name (hundotted hops leaf hleads hkind hdeep f hmem)
    rw [Record.finds_congr hread]
  · intro hdeep
    have hnone : targets schema names depth.toNat = [] := by
      rw [htargets, List.eq_nil_iff_forall_not_mem]
      intro path hpath
      obtain ⟨hops, leaf, -, hleads, hkind, hle⟩ := (mem_discover hbuilt).mp hpath
      have := hdeep hops leaf hleads hkind
      have := (hlength hops).mp hle
      omega
    rw [compile, if_neg (by omega), hnone] at hf
    cases hf
    rfl

end Search

/-! ### Pets -/

namespace Pet

def name : Field where
  name := "name"
  kind := .text

def aliases : Field where
  name := "aliases"
  kind := .text
  collection := true

def pets : Field where
  name := "pets"
  kind := .object
  collection := true
  nested := some 1

def owner : Field where
  name := "owner"
  kind := .object
  nullable := true
  nested := some 0

def person : RecordType := ⟨"Person", [name, aliases, pets]⟩

def pet : RecordType := ⟨"Pet", [name, owner]⟩

/-- People have pets and pets have owners. -/
def people : Schema := ⟨[person, pet], person⟩

theorem people_built : people.Built := by
  constructor <;> simp [people, person, pet, name, aliases, pets, owner, Field.Built]

theorem people_undotted : people.Named fun name => '.' ∉ name.toList := by
  constructor <;> simp [people, person, pet, name, aliases, pets, owner]

/-- A pet of Mark's is owned by Jo as well, who is also called Josephine. -/
def mark : Record :=
  [("name", .text "Mark"), ("pets", .list [.text "Rex", .record [("name", .text "Rex"),
    ("owner", .record [("name", .text "Jo"), ("aliases", .list [.text "Josephine"])])]])]

theorem mark_shows_josephine : people.Shows Record.read 2 "JOSE" mark := by
  refine ⟨[pets, owner], aliases, "Josephine", ?_, rfl, by decide, ?_, ?_⟩
  · exact .hop (by simp [people, person]) rfl (.hop (by simp [pet]) rfl (.leaf (by simp [person])))
  · exact .entry rfl rfl (.tail _ (.head _))
      (.nested rfl rfl (.element rfl rfl (List.mem_singleton.mpr rfl)))
  · exact ⟨[], ['p', 'h', 'i', 'n', 'e'], by decide +kernel⟩

theorem finds_josephine :
    people.Built ∧ (0 : Int) ≤ 2 ∧ (none : Option (List String)).getD [] = [] ∧
      ∃ f, Search.compile people "JOSE" none 2 = .ok f ∧ f.accepts mark = true := by
  have hnames : (none : Option (List String)).getD [] = [] := rfl
  obtain ⟨f, hf, -, hundotted, -⟩ :=
    Search.finds_reachable people_built (by decide : (0 : Int) ≤ 2) hnames "JOSE"
  have hshows := hundotted fun hops leaf hleads _ _ => hleads.named people_undotted
  exact ⟨people_built, by decide, hnames, f, hf, (hshows mark).mpr mark_shows_josephine⟩

end Pet

/-! ### A name with a dot -/

namespace Memo

def line : Field where
  name := "first.line"
  kind := .text

def schema : Schema := ⟨[], ⟨"Memo", [line]⟩⟩

/-- A text field with a dot in its name is a target, and nothing is found in it. -/
theorem dotted_line_missed :
    schema.Built ∧ schema.Shows Record.read 0 "milk" [("first.line", .text "Buy milk")] ∧
      ∃ f, Search.compile schema "milk" none 0 = .ok f ∧
        f.accepts [("first.line", .text "Buy milk")] = false := by
  refine ⟨?_, ?_, _, rfl, by decide +kernel⟩
  · constructor <;> simp [schema, line, Field.Built]
  · refine ⟨[], line, "Buy milk", .leaf (by simp [schema]), rfl, by decide, .leaf rfl, ?_⟩
    exact ⟨['b', 'u', 'y', ' '], [], by decide +kernel⟩

end Memo

end RecordQuery
