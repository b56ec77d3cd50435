import RecordQuery.Cursor.Codec
import RecordQuery.Proofs.KeyOrder
import RecordQuery.Proofs.OperandKind

/-!
# Accepted boundaries

Reading a cursor against a sort order takes one value for each key and coerces it to the kind of the
key. Whatever cursor is accepted, its boundary has one operand for each key, each null or of the
kind of the key.
-/

namespace RecordQuery

theorem map_eq_ok {ε α β : Type} {f : α → β} {x : Except ε α} {b : β} :
    x.map f = .ok b ↔ ∃ a, x = .ok a ∧ f a = b := by
  cases x <;> simp [Except.map]

theorem map_eq_error {ε α β : Type} {f : α → β} {x : Except ε α} {error : ε} :
    x.map f = .error error ↔ x = .error error := by
  cases x <;> simp [Except.map]

theorem bind_eq_ok {ε α β : Type} {x : Except ε α} {f : α → Except ε β} {b : β} :
    x >>= f = .ok b ↔ ∃ a, x = .ok a ∧ f a = .ok b := by
  cases x <;> simp [bind, Except.bind]

theorem bind_eq_error {ε α β : Type} {x : Except ε α} {f : α → Except ε β} {error : ε} :
    x >>= f = .error error ↔ x = .error error ∨ ∃ a, x = .ok a ∧ f a = .error error := by
  cases x <;> simp [bind, Except.bind]

theorem toBool_eq_true {ε α : Type} {x : Except ε α} : x.toBool = true ↔ ∃ a, x = .ok a := by
  cases x <;> simp [Except.toBool]

theorem toOption_map_eq_some {ε α β : Type} {f : α → β} {x : Except ε α} {b : β} :
    x.toOption.map f = some b ↔ ∃ a, x = .ok a ∧ f a = b := by
  cases x <;> simp [Except.toOption]

theorem coerce_eq_ok {kind : Kind} {nullable : Bool} {value : Json} {operand : Operand} :
    coerce kind nullable value = .ok operand ↔
      Coercion.operand? kind nullable value = some operand := by
  rw [coerce]
  cases Coercion.operand? kind nullable value <;> simp

namespace Cursor

theorem operand_eq_ok {cursor : Cursor} {key : SortKey} {operand : Operand} :
    cursor.operand key = .ok operand ↔ ∃ value, cursor.get? key.path.text = some value ∧
      Coercion.operand? key.path.leaf.kind true value = some operand := by
  rw [Cursor.operand]
  cases cursor.get? key.path.text with
  | none => simp
  | some value =>
      simp only [Option.some.injEq, exists_eq_left', ← coerce_eq_ok]
      cases coerce key.path.leaf.kind true value <;> simp

theorem operands_eq_ok {cursor : Cursor} {keys : List SortKey} {boundary : List Operand} :
    cursor.operands keys = .ok boundary ↔
      List.Forall₂ (fun key operand => cursor.operand key = .ok operand) keys boundary := by
  induction keys generalizing boundary with
  | nil => cases boundary <;> simp [operands]
  | cons key keys ih =>
      rw [operands]
      cases hkey : cursor.operand key with
      | error error => cases boundary <;> simp [hkey, bind, Except.bind]
      | ok operand =>
          cases hrest : cursor.operands keys with
          | error error => cases boundary <;> simp [hkey, hrest, bind, Except.bind, ← ih]
          | ok operands => cases boundary <;> simp [hkey, hrest, bind, Except.bind, ← ih]

theorem exists_operand {cursor : Cursor} {keys : List SortKey} {boundary : List Operand}
    (h : List.Forall₂ (fun key operand => cursor.operand key = .ok operand) keys boundary)
    {key : SortKey} (hkey : key ∈ keys) : ∃ operand, cursor.operand key = .ok operand := by
  induction h with
  | nil => cases hkey
  | cons hfirst _ ih =>
      rcases List.mem_cons.mp hkey with rfl | hkey
      · exact ⟨_, hfirst⟩
      · exact ih hkey

theorem exists_operands_iff {cursor : Cursor} {keys : List SortKey} :
    (∃ boundary, cursor.operands keys = .ok boundary) ↔
      ∀ key ∈ keys, ∃ operand, cursor.operand key = .ok operand := by
  constructor
  · rintro ⟨boundary, hboundary⟩ key hkey
    exact exists_operand (operands_eq_ok.mp hboundary) hkey
  · intro h
    induction keys with
    | nil => exact ⟨[], rfl⟩
    | cons key keys ih =>
        obtain ⟨operand, hoperand⟩ := h key (by simp)
        obtain ⟨operands, hoperands⟩ := ih fun other hother => h other (by simp [hother])
        exact ⟨operand :: operands,
          operands_eq_ok.mpr (.cons hoperand (operands_eq_ok.mp hoperands))⟩

theorem fits_of_operands {cursor : Cursor} {keys : List SortKey} {boundary : List Operand}
    (h : List.Forall₂ (fun key operand => cursor.operand key = .ok operand) keys boundary)
    (hwhole : ∀ operand ∈ boundary, ∀ x, operand ≠ .number (.real x)) :
    List.Forall₂ (fun key operand => operand.Fits key.path.leaf.kind) keys boundary := by
  induction h with
  | nil => exact .nil
  | cons hkey _ ih =>
      obtain ⟨value, -, hvalue⟩ := operand_eq_ok.mp hkey
      refine .cons ((Coercion.operand?_ofKind hvalue).fits (hwhole _ (by simp))) (ih ?_)
      intro operand hoperand
      exact hwhole operand (by simp [hoperand])

/-- The boundary of an accepted cursor fits the keys, binary fractions aside. -/
theorem boundary_fits {cursor : Cursor} {order : SortOrder} {boundary : List Operand}
    (h : cursor.boundary order = .ok boundary)
    (hwhole : ∀ operand ∈ boundary, ∀ x, operand ≠ .number (.real x)) :
    order.FitsBoundary boundary := by
  rw [Cursor.boundary] at h
  split at h
  · exact fits_of_operands (operands_eq_ok.mp h) hwhole
  · cases h

end Cursor

/-- **Every token that a codec accepts stands for a boundary that fits the sort order.** -/
theorem Codec.boundary_fits {codec : Codec} {token : String} {order : SortOrder}
    {boundary : List Operand} (h : codec.boundary token order = .ok boundary)
    (hwhole : ∀ operand ∈ boundary, ∀ x, operand ≠ .number (.real x)) :
    order.FitsBoundary boundary := by
  obtain ⟨cursor, -, hcursor⟩ := bind_eq_ok.mp h
  exact Cursor.boundary_fits hcursor hwhole

end RecordQuery
