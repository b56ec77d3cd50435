import RecordQuery.Coercion
import RecordQuery.Proofs.ValueOrder

/-!
# Operands of one kind

Whatever a JSON value is coerced to for a field is a scalar of the kind of the field, a variant
within the list of its names, or null where the field is nullable.
-/

namespace RecordQuery

/-- A scalar of the kind, or null where that is allowed. -/
inductive Operand.OfKind : Kind → Bool → Operand → Prop
  | text {nullable : Bool} (s : String) : OfKind .text nullable (.text s)
  | number {nullable : Bool} (n : Number) : OfKind .number nullable (.number n)
  | timestamp {nullable : Bool} (t : Timestamp) : OfKind .timestamp nullable (.timestamp t)
  | uuid {nullable : Bool} (u : Uuid) : OfKind .uuid nullable (.uuid u)
  | enumeration {nullable : Bool} {variants : List String} {index : UInt32}
      (h : variants = [] ∨ index.toNat < variants.length) :
      OfKind (.enumeration variants) nullable (.enumeration index)
  | bool {nullable : Bool} (b : Bool) : OfKind .bool nullable (.bool b)
  | null (kind : Kind) : OfKind kind true .null

theorem Operand.OfKind.fits {kind : Kind} {nullable : Bool} {operand : Operand}
    (h : operand.OfKind kind nullable) (hwhole : ∀ x, operand ≠ .number (.real x)) :
    operand.Fits kind := by
  cases h with
  | text s => exact .text s
  | number n =>
      cases n with
      | signed n => exact .signed n
      | unsigned n => exact .unsigned n
      | real x => exact absurd rfl (hwhole x)
  | timestamp t => exact .timestamp t
  | uuid u => exact .uuid u
  | enumeration _ => exact .enumeration _ _
  | bool b => exact .bool b
  | null => exact .absent kind

namespace Coercion

variable {kind : Kind} {nullable : Bool} {operand : Operand}

theorem enumeration?_ofKind {variants : List String} {index : Nat}
    (h : enumeration? variants index = some operand) :
    operand.OfKind (.enumeration variants) nullable := by
  rw [enumeration?] at h
  split at h
  next hrange =>
    cases h
    rw [List.isEmpty_iff] at hrange
    refine .enumeration (hrange.2.imp_right fun hindex => ?_)
    rwa [UInt32.toNat_ofNat_of_lt' hrange.1]
  next => cases h

theorem ofText?_ofKind {s : String} (h : ofText? kind s = some operand) :
    operand.OfKind kind nullable := by
  cases kind with
  | text =>
      cases h
      exact .text s
  | number =>
      obtain ⟨n, -, rfl⟩ := Option.map_eq_some_iff.mp h
      exact .number n
  | timestamp =>
      obtain ⟨t, -, rfl⟩ := Option.map_eq_some_iff.mp h
      exact .timestamp t
  | uuid =>
      simp only [ofText?] at h
      split at h
      · cases h
        exact .uuid _
      · obtain ⟨u, -, rfl⟩ := Option.map_eq_some_iff.mp h
        exact .uuid u
  | enumeration variants =>
      simp only [ofText?] at h
      split at h
      · exact enumeration?_ofKind h
      · obtain ⟨n, -, hn⟩ := Option.bind_eq_some_iff.mp h
        exact enumeration?_ofKind hn
  | bool =>
      obtain ⟨b, -, rfl⟩ := Option.map_eq_some_iff.mp h
      exact .bool b
  | object => cases h

theorem ofNumeric?_ofKind {n : Json.Numeric} (h : ofNumeric? kind n = some operand) :
    operand.OfKind kind nullable := by
  cases kind with
  | text =>
      cases h
      exact .text _
  | number =>
      cases h
      exact .number _
  | timestamp =>
      obtain ⟨n, -, rfl⟩ := Option.map_eq_some_iff.mp h
      exact .timestamp _
  | uuid => cases h
  | enumeration variants =>
      obtain ⟨n, -, hn⟩ := Option.bind_eq_some_iff.mp h
      exact enumeration?_ofKind hn
  | bool =>
      simp only [ofNumeric?] at h
      split at h
      · cases h
        exact .bool true
      · cases h
        exact .bool false
      · cases h
  | object => cases h

theorem ofNull?_ofKind (h : ofNull? kind nullable = some operand) :
    operand.OfKind kind nullable := by
  rw [ofNull?] at h
  split at h
  next hnullable =>
    cases h
    subst hnullable
    exact .null kind
  next =>
    split at h
    next hkind =>
      cases h
      subst hkind
      exact .uuid _
    next => cases h

/-- **A coerced value is of the kind of its field.** -/
theorem operand?_ofKind {value : Json} (h : operand? kind nullable value = some operand) :
    operand.OfKind kind nullable := by
  cases value with
  | null => exact ofNull?_ofKind h
  | text s => exact ofText?_ofKind h
  | number n => exact ofNumeric?_ofKind h
  | bool b =>
      cases kind with
      | text =>
          cases h
          exact .text _
      | bool =>
          cases h
          exact .bool b
      | _ => cases h
  | array items => cases h
  | object members => cases h

end Coercion

end RecordQuery
