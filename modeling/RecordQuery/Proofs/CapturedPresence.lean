import RecordQuery.Proofs.Capture

/-!
# Present and absent keys of cursors

A cursor writes an absent key as null, and only null is read back as absent. Every present value has
a form of its own but for the numbers that JSON cannot write. Of these the infinite ones are
comparable, so records are sorted by them, but their cursors take them for absent.
-/

namespace RecordQuery

namespace Value

/-- Absent, or a value of the kind. Numbers are of any form. -/
inductive OfKind : Kind → Value → Prop where
  | fits {kind : Kind} {value : Value} (h : value.Fits kind) : OfKind kind value
  | real (x : Binary64) : OfKind .number (.number (.real x))

/-- One of the two infinite numbers. -/
def IsInfinite (value : Value) : Prop :=
  ∃ negative, value = .number (.real (.signed negative .infinity))

end Value

namespace Cursor

/-- **The values that are captured as null.** -/
theorem ofValue_eq_null_iff {kind : Kind} {value : Value} (hkind : value.OfKind kind)
    (hself : value.compare? value = some .eq) :
    ofValue kind value = .null ↔ value = .absent ∨ value.IsInfinite := by
  cases hkind with
  | fits hfits =>
      cases hfits with
      | enumeration variants index =>
          rw [ofValue]
          split <;> simp [Value.IsInfinite]
      | _ => simp [ofValue, Number.toJson, Value.IsInfinite]
  | real x =>
      cases x with
      | nan => cases hself
      | signed negative x =>
          rw [ofValue, Number.toJson, Json.Numeric.ofBinary64?]
          by_cases hfinite : x = .infinity <;> simp [hfinite, Value.IsInfinite]

end Cursor

namespace Coercion

/-- **Only null is read as absent.** -/
theorem operand?_eq_null_iff {kind : Kind} {value : Json} :
    operand? kind true value = some .null ↔ value = .null := by
  constructor
  · intro h
    cases value with
    | null => rfl
    | text s =>
        have hpresent : Operand.null.OfKind kind false := ofText?_ofKind h
        cases hpresent
    | number n =>
        have hpresent : Operand.null.OfKind kind false := ofNumeric?_ofKind h
        cases hpresent
    | bool b => cases kind <;> cases h
    | array items => cases h
    | object members => cases h
  · rintro rfl
    rfl

/-- A captured value is read back, a timestamp as long as it is read back from its text. -/
theorem exists_operand?_ofValue {kind : Kind} {value : Value} (hkind : value.OfKind kind)
    (hnamed : value.Named kind) :
    (∃ operand, operand? kind true (Cursor.ofValue kind value) = some operand) ↔
      value.Readable := by
  cases hkind with
  | fits hfits =>
      obtain ⟨hread, hrefused⟩ := operand?_ofValue hfits hnamed
      constructor
      · rintro ⟨operand, hoperand⟩
        by_contra hunreadable
        rw [hrefused hunreadable] at hoperand
        cases hoperand
      · intro hreadable
        obtain ⟨operand, hoperand, -⟩ := hread hreadable
        exact ⟨operand, hoperand⟩
  | real x =>
      refine iff_of_true ?_ (fun _ h => by cases h)
      rw [Cursor.ofValue, Number.toJson]
      split
      · exact ⟨_, rfl⟩
      · exact ⟨_, rfl⟩

end Coercion

namespace Cursor

variable {order : SortOrder} {r : Record}

/-- **Present and absent keys are told apart** but for infinite numbers. Whatever the record holds
under its other keys, a comparable value of the kind of its key is captured as null, and stands as
null in the boundary, exactly if it is absent or infinite. The boundary of a record whose keys are
all of their kinds exists exactly if its timestamps are read back. -/
theorem null_iff_absent_or_infinite {schema : Schema} {sort : String} {tie : Option String}
    (hcompile : SortOrder.compile schema sort tie = .ok order) (r : Record) :
    (∀ key ∈ order.keys, (key.path.read r).OfKind key.path.leaf.kind →
      (key.path.read r).compare? (key.path.read r) = some .eq →
      ∃ stored, (capture r order).get? key.path.text = some stored ∧
        (stored = .null ↔ key.path.read r = .absent ∨ (key.path.read r).IsInfinite)) ∧
    (∀ boundary, (capture r order).boundary order = .ok boundary →
      List.Forall₂ (fun key operand => (key.path.read r).OfKind key.path.leaf.kind →
        (key.path.read r).compare? (key.path.read r) = some .eq →
        (operand = .null ↔ key.path.read r = .absent ∨ (key.path.read r).IsInfinite))
        order.keys boundary) ∧
    ((∀ key ∈ order.keys, (key.path.read r).OfKind key.path.leaf.kind) → order.Named r →
      ((∃ boundary, (capture r order).boundary order = .ok boundary) ↔ order.Readable r)) := by
  have horder := SortOrder.wellFormed_of_compile hcompile
  rw [boundary_capture_eq horder]
  refine ⟨?_, ?_, ?_⟩
  · intro key hkey hkind hself
    exact ⟨_, get?_capture horder hkey, ofValue_eq_null_iff hkind hself⟩
  · intro boundary hboundary
    obtain ⟨hlength, hoperands⟩ := List.forall₂_iff_zip.mp (operands_eq_ok.mp hboundary)
    refine List.forall₂_iff_zip.mpr ⟨hlength, ?_⟩
    intro key operand hmember hkind hself
    have hread := (operand_capture horder (List.of_mem_zip hmember).1).mp (hoperands hmember)
    rw [← ofValue_eq_null_iff hkind hself, ← @Coercion.operand?_eq_null_iff key.path.leaf.kind,
      hread, Option.some.injEq]
  · intro hkinds hnamed
    rw [exists_operands_iff]
    refine forall₂_congr fun key hkey => ?_
    simp only [operand_capture horder hkey]
    exact Coercion.exists_operand?_ofValue (hkinds key hkey) (hnamed key hkey)

end Cursor

/-! ### Measurements -/

namespace Measurement

def id : Field where
  name := "id"
  kind := .number

def score : Field where
  name := "score"
  kind := .number

def schema : Schema := ⟨[], ⟨"Measurement", [id, score]⟩⟩

/-- The lowest score first. -/
def order : SortOrder := ⟨[⟨⟨[], score⟩, .asc⟩, ⟨⟨[], id⟩, .asc⟩], some "id"⟩

/-- The score is lower than every other number. -/
def lowest : Record :=
  [("id", .number (.signed 1)), ("score", .number (.real (.signed true .infinity)))]

def ordinary : Record := [("id", .number (.signed 2)), ("score", .number (.signed 5))]

theorem compile_order : SortOrder.compile schema "score" (some "id") = .ok order := by
  cbv

theorem ofKind_lowest :
    ∀ key ∈ order.keys, (key.path.read lowest).OfKind key.path.leaf.kind := by
  simp only [order, List.forall_mem_cons]
  exact ⟨.real _, .fits (.signed _), by simp⟩

theorem named_lowest : order.Named lowest := by
  simp only [SortOrder.Named, order, List.forall_mem_cons]
  refine ⟨?_, ?_, by simp⟩
  · rintro _ _ ⟨⟩
  · rintro _ _ ⟨⟩

theorem readable_lowest : order.Readable lowest := by
  simp only [SortOrder.Readable, order, List.forall_mem_cons]
  refine ⟨?_, ?_, by simp⟩
  · rintro _ ⟨⟩
  · rintro _ ⟨⟩

/-- In the boundary of the lowest score the score is null and the identifier is not. -/
theorem presence_of_lowest : ∃ first last,
    (Cursor.capture lowest order).boundary order = .ok [first, last] ∧
      first = .null ∧ last ≠ .null := by
  obtain ⟨-, hnull, hexists⟩ := Cursor.null_iff_absent_or_infinite compile_order lowest
  obtain ⟨boundary, hboundary⟩ := (hexists ofKind_lowest named_lowest).mpr readable_lowest
  have hnulls := hnull boundary hboundary
  simp only [order] at hnulls
  rcases hnulls with _ | ⟨hfirst, _ | ⟨hlast, _ | _⟩⟩
  refine ⟨_, _, hboundary, ?_, ?_⟩
  · exact (hfirst (.real _) (by decide +kernel)).mpr (Or.inr ⟨true, rfl⟩)
  · intro hlastNull
    rcases (hlast (.fits (.signed 1)) (by decide +kernel)).mp hlastNull with h | ⟨_, h⟩
    · cases h
    · cases h

/-- The lowest score is a number and level with itself, but it is captured as null. So the filter of
the next page, which looks for what follows an absent score, leaves out a record that follows. -/
theorem lowest_taken_for_absent :
    SortOrder.compile schema "score" (some "id") = .ok order ∧
      lowest.read "score" = .number (.real (.signed true .infinity)) ∧
      (lowest.read "score").compare? (lowest.read "score") = some .eq ∧
      (Cursor.capture lowest order).get? "score" = some .null ∧
      (Cursor.capture lowest order).boundary order = .ok [.null, .number (.signed 1)] ∧
      order.compare lowest ordinary = .lt ∧
      ¬(order.keyset [.null, .number (.signed 1)]).accepts ordinary := by
  refine ⟨compile_order, rfl, by decide +kernel, ?_, ?_, by decide +kernel, by decide +kernel⟩
  · cbv
  · cbv

end Measurement

end RecordQuery
