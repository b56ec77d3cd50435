import RecordQuery.Proofs.TextParts
import RecordQuery.Schema

/-!
# Texts of paths

The names of a path that a schema resolves hold no dot and no blanks at their ends, so the text of
the path splits into these names and resolves to the path again. Reading a record at that text gives
what the path itself reads, except for lists, which only the path looks into.
-/

namespace RecordQuery

/-! ### Names of resolved paths -/

theorem exists_mem_of_forall₂ {α β : Type} {R : α → β → Prop} {as : List α} {bs : List β}
    (h : List.Forall₂ R as bs) {a : α} (ha : a ∈ as) : ∃ b ∈ bs, R a b := by
  induction h with
  | nil => cases ha
  | cons hab _ ih =>
      rcases List.mem_cons.mp ha with rfl | ha
      · exact ⟨_, by simp, hab⟩
      · obtain ⟨b, hb, hab⟩ := ih ha
        exact ⟨b, by simp [hb], hab⟩

/-- No name of the path holds a dot. -/
def Path.Undotted (p : Path) : Prop :=
  ∀ hop ∈ p.hops, '.' ∉ hop.name.toList

namespace Schema

theorem field?_sameName {schema : Schema} {name : String} {f : Field}
    (h : schema.field? name = some f) : Text.sameName f.name name = true := by
  simpa using List.find?_some h

/-- A longer path begins with a field that leads to the schema of the rest. -/
theorem follow?_cons {schema : Schema} {name next : String} {names : List String} {p : Path}
    (h : schema.follow? (name :: next :: names) = some p) :
    ∃ f inner rest, schema.field? name = some f ∧ schema.nested? f = some inner ∧
      inner.follow? (next :: names) = some rest ∧ p = ⟨f :: rest.before, rest.leaf⟩ := by
  rw [follow?] at h
  · obtain ⟨f, hf, h⟩ := Option.bind_eq_some_iff.mp h
    obtain ⟨inner, hinner, h⟩ := Option.bind_eq_some_iff.mp h
    obtain ⟨rest, hrest, h⟩ := Option.bind_eq_some_iff.mp h
    cases h
    exact ⟨f, inner, rest, hf, hinner, hrest, rfl⟩
  · simp

/-- The hops of a path have the names that lead to them, ASCII case aside. -/
theorem follow?_sameName {schema : Schema} {names : List String} {p : Path}
    (h : schema.follow? names = some p) :
    List.Forall₂ (fun hop name => Text.sameName hop.name name = true) p.hops names := by
  induction names generalizing schema p with
  | nil => simp [follow?] at h
  | cons name names ih =>
      cases names with
      | nil =>
          rw [follow?] at h
          obtain ⟨f, hf, rfl⟩ := Option.map_eq_some_iff.mp h
          exact .cons (field?_sameName hf) .nil
      | cons next names =>
          obtain ⟨f, inner, rest, hf, -, hrest, rfl⟩ := follow?_cons h
          exact .cons (field?_sameName hf) (ih hrest)

/-- A name of a resolved path is that of a segment of the text, ASCII case and blanks aside. -/
theorem resolve?_segment {schema : Schema} {path : String} {p : Path}
    (h : schema.resolve? path = some p) {hop : Field} (hhop : hop ∈ p.hops) :
    ∃ segment ∈ Text.split '.' path, Text.sameName hop.name (Text.trim segment) = true := by
  obtain ⟨name, hname, hsame⟩ := exists_mem_of_forall₂ (follow?_sameName h) hhop
  obtain ⟨segment, hsegment, rfl⟩ := List.mem_map.mp hname
  exact ⟨segment, hsegment, hsame⟩

theorem resolve?_undotted {schema : Schema} {path : String} {p : Path}
    (h : schema.resolve? path = some p) : p.Undotted := by
  intro hop hhop hdot
  obtain ⟨segment, hsegment, hsame⟩ := resolve?_segment h hhop
  have hmem := Text.mem_of_mem_trim ((Text.mem_iff_of_sameName hsame rfl).mp hdot)
  exact (Text.of_mem_split hsegment hmem).2 rfl

theorem resolve?_trimmed {schema : Schema} {path : String} {p : Path}
    (h : schema.resolve? path = some p) {hop : Field} (hhop : hop ∈ p.hops) :
    Text.Trimmed hop.name.toList := by
  obtain ⟨segment, -, hsame⟩ := resolve?_segment h hhop
  exact Text.trimmed_of_sameName hsame (Text.trimmed_trim segment)

/-- The text of a resolved path holds no character beside letters and dots that the resolved text
does not hold. -/
theorem mem_of_mem_text {schema : Schema} {path : String} {p : Path}
    (h : schema.resolve? path = some p) {c : Char} (hc : c ∈ p.text.toList)
    (hletter : c.isAlpha = false) (hdot : c ≠ '.') : c ∈ path.toList := by
  rcases Text.mem_join hc with hc | ⟨name, hname, hc⟩
  · exact absurd (by simpa using hc) hdot
  · obtain ⟨hop, hhop, rfl⟩ := List.mem_map.mp hname
    obtain ⟨segment, hsegment, hsame⟩ := resolve?_segment h hhop
    have hmem := Text.mem_of_mem_trim ((Text.mem_iff_of_sameName hsame hletter).mp hc)
    exact (Text.of_mem_split hsegment hmem).1

end Schema

namespace Path

theorem split_text {p : Path} (h : p.Undotted) :
    Text.split '.' p.text = p.hops.map Field.name := by
  refine Text.split_join (by simp [hops]) ?_
  intro name hname
  obtain ⟨hop, hhop, rfl⟩ := List.mem_map.mp hname
  exact h hop hhop

end Path

/-! ### Canonical texts -/

namespace Schema

theorem field?_congr (schema : Schema) {a b : String} (h : Text.sameName a b = true) :
    schema.field? a = schema.field? b := by
  rw [field?, field?]
  refine congrFun (congrArg List.find? (funext fun f => ?_)) _
  rw [Text.sameName, Text.sameName, Text.sameName_iff.mp h]

theorem follow?_congr {schema : Schema} {as bs : List String}
    (h : List.Forall₂ (fun a b => Text.sameName a b = true) as bs) :
    schema.follow? as = schema.follow? bs := by
  induction h generalizing schema with
  | nil => rfl
  | cons hab hrest ih =>
      cases hrest with
      | nil => rw [follow?, follow?, field?_congr schema hab]
      | cons hnext hrest =>
          rw [follow?, follow?, field?_congr schema hab]
          · simp only [ih]
          · simp
          · simp

/-- **The text of a resolved path resolves to the path again.** -/
theorem resolve?_text {schema : Schema} {path : String} {p : Path}
    (h : schema.resolve? path = some p) : schema.resolve? p.text = some p := by
  have htrim : (p.hops.map Field.name).map Text.trim = p.hops.map Field.name := by
    rw [List.map_map]
    exact List.map_congr_left fun hop hhop => (resolve?_trimmed h hhop).trim_eq
  rw [resolve?, Path.split_text (resolve?_undotted h), htrim, ← h, resolve?]
  exact follow?_congr (List.forall₂_map_left_iff.mpr (follow?_sameName h))

end Schema

/-! ### Reading -/

theorem Record.readPath_name {name : String} (h : '.' ∉ name.toList) (r : Record) :
    r.readPath name = r.read name := by
  rw [readPath, Text.split, Text.splitChars_of_notMem h, List.map_singleton, String.ofList_toList]
  rfl

namespace Path

/-- Where no list is read, the chain of the names leads to what the path reads. -/
theorem readChain_eq_readFrom {leaf : Field} {hops : List Field} {r : Record}
    (h : ∀ items, readFrom leaf hops r ≠ .list items) :
    r.readChain (hops.map Field.name ++ [leaf.name]) = readFrom leaf hops r := by
  induction hops generalizing r with
  | nil => rfl
  | cons hop hops ih =>
      obtain ⟨next, names, hnames⟩ : ∃ next names,
          hops.map Field.name ++ [leaf.name] = next :: names := by
        cases hops <;> simp
      rw [List.map_cons, List.cons_append, hnames, Record.readChain, ← hnames, readFrom]
      · cases hread : r.read hop.name with
        | record inner =>
            simp only
            refine ih fun items => ?_
            have := h items
            simpa [readFrom, hread] using this
        | list items => simp [readFrom, hread] at h
        | _ => rfl
      · simp

theorem readPath_text {p : Path} (hp : p.Undotted) {r : Record}
    (h : ∀ items, p.read r ≠ .list items) : r.readPath p.text = p.read r := by
  rw [Record.readPath, split_text hp, hops, List.map_append]
  exact readChain_eq_readFrom h

end Path

end RecordQuery
