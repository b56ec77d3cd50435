import RecordQuery.Proofs.Path

/-!
# Declared shapes

A schema that is built from field definitions has a nested type for each field of records and for no
other field. A record has the declared shape if records, lists and scalars stand where the schema
has them. A value may be absent anywhere.
-/

namespace RecordQuery

/-- Fields of records, and no others, lead to one of the types. -/
def Field.Built (types : List RecordType) (f : Field) : Prop :=
  (f.nested.isSome ↔ f.kind = .object) ∧ ∀ i ∈ f.nested, i < types.length

namespace Schema

structure Built (schema : Schema) : Prop where
  type : ∀ f ∈ schema.type.fields, f.Built schema.types
  types : ∀ type ∈ schema.types, ∀ f ∈ type.fields, f.Built schema.types

section Built

variable {schema inner : Schema} {name : String} {f : Field}

theorem mem_of_field? (h : schema.field? name = some f) : f ∈ schema.type.fields :=
  List.mem_of_find?_eq_some h

theorem Built.field (hbuilt : schema.Built) (h : schema.field? name = some f) :
    f.Built schema.types :=
  hbuilt.type f (mem_of_field? h)

theorem types_of_nested? (h : schema.nested? f = some inner) : inner.types = schema.types := by
  obtain ⟨i, -, h⟩ := Option.bind_eq_some_iff.mp h
  obtain ⟨type, -, rfl⟩ := Option.map_eq_some_iff.mp h
  rfl

theorem Built.nested (hbuilt : schema.Built) (h : schema.nested? f = some inner) :
    inner.Built := by
  obtain ⟨i, -, h⟩ := Option.bind_eq_some_iff.mp h
  obtain ⟨type, htype, rfl⟩ := Option.map_eq_some_iff.mp h
  exact ⟨hbuilt.types type (List.mem_of_getElem? htype), hbuilt.types⟩

theorem nested?_congr (h : inner.types = schema.types) (f : Field) :
    inner.nested? f = schema.nested? f := by
  cases inner
  cases schema
  cases h
  rfl

/-- There is a nested schema exactly for a field of records. -/
theorem exists_nested?_iff (h : f.Built schema.types) :
    (∃ inner, schema.nested? f = some inner) ↔ f.kind = .object := by
  rw [← h.1, nested?]
  cases hnested : f.nested with
  | none => simp
  | some i =>
      have hi : i < schema.types.length := h.2 i hnested
      simp [List.getElem?_eq_getElem hi]

end Built

mutual

/-- The fields that the schema finds hold values of their shapes. -/
inductive Shapes : Schema → Record → Prop
  | fields {schema : Schema} {r : Record}
      (h : ∀ name f, schema.field? name = some f → Allows schema f (r.read f.name)) :
      Shapes schema r

/-- The value has the shape that a field declares, or is absent. A scalar may be of any kind. -/
inductive Allows : Schema → Field → Value → Prop
  | absent {schema : Schema} {f : Field} : Allows schema f .absent
  | scalar {schema : Schema} {f : Field} {value : Value} (hkind : f.kind ≠ .object)
      (hsingle : f.collection = false) (hrecord : ∀ r, value ≠ .record r)
      (hlist : ∀ items, value ≠ .list items) : Allows schema f value
  | record {schema inner : Schema} {f : Field} {r : Record} (hsingle : f.collection = false)
      (hinner : schema.nested? f = some inner) (h : Shapes inner r) : Allows schema f (.record r)
  | list {schema : Schema} {f : Field} {items : List Value} (hmany : f.collection = true)
      (h : ∀ item ∈ items, Allows schema { f with collection := false } item) :
      Allows schema f (.list items)

end

/-- What a field allows depends on the types of its schema only. -/
theorem Allows.of_types_eq {schema owner : Schema} (htypes : owner.types = schema.types)
    {f : Field} {value : Value} (h : owner.Allows f value) : schema.Allows f value := by
  match h with
  | .absent => exact .absent
  | .scalar hkind hsingle hrecord hlist => exact .scalar hkind hsingle hrecord hlist
  | .record hsingle hinner hshapes =>
      exact .record hsingle ((nested?_congr htypes f).symm.trans hinner) hshapes
  | .list hmany hitems =>
      exact .list hmany fun item hitem => (hitems item hitem).of_types_eq htypes

end Schema

end RecordQuery
