import RecordQuery.Proofs.Boundary
import RecordQuery.Proofs.JsonObject
import RecordQuery.Proofs.TimestampText
import RecordQuery.Proofs.UuidText

/-!
# Captured cursors

Reading the cursor of a record against its own sort order gives the values of its keys back, whole
numbers up to their form. Only a timestamp may be refused, namely when it is not read back from its
own text.
-/

namespace RecordQuery

/-- The names of the variants have no blanks at their ends and differ in more than ASCII case, and
the variant of the value is one of them. Without names any variant will do. -/
def Value.Named (kind : Kind) (value : Value) : Prop :=
  ∀ variants index, kind = .enumeration variants → value = .enumeration index →
    variants = [] ∨ index.toNat < variants.length ∧ (∀ name ∈ variants, Text.trim name = name) ∧
      variants.Pairwise fun a b => Text.sameName a b = false

/-- The value is read back from its text if it is a timestamp. -/
def Value.Readable (value : Value) : Prop :=
  ∀ t, value = .timestamp t → t.Readable

namespace Coercion

theorem number_whole {n : Int} (range : -0x8000000000000000 ≤ n ∧ n < 0x10000000000000000) :
    (Operand.number (.ofJson (.whole n range))).Fits .number ∧
      (Operand.number (.ofJson (.whole n range))).toValue.rank = (false, "", n) := by
  rw [Number.ofJson]
  split
  next hsigned =>
    refine ⟨.signed _, ?_⟩
    rw [Operand.toValue, Value.rank, Int64.toInt_ofInt_of_le range.1 hsigned]
  next hunsigned =>
    refine ⟨.unsigned _, ?_⟩
    have hsize : n.toNat < UInt64.size := by
      change n.toNat < 0x10000000000000000
      omega
    rw [Operand.toValue, Value.rank, UInt64.toNat_ofNat_of_lt' hsize]
    simp only [Prod.mk.injEq, true_and]
    omega

theorem variantIndex?_name {variants : List String} {index : Nat} {name : String}
    (htrim : ∀ name ∈ variants, Text.trim name = name)
    (hdistinct : variants.Pairwise fun a b => Text.sameName a b = false)
    (hname : variants[index]? = some name) : variantIndex? variants name = some index := by
  obtain ⟨hindex, rfl⟩ := List.getElem?_eq_some_iff.mp hname
  rw [variantIndex?, htrim _ (List.getElem_mem hindex), List.findIdx?_eq_some_iff_getElem]
  refine ⟨hindex, Text.sameName_refl _, ?_⟩
  intro j hj
  have hne := List.pairwise_iff_getElem.mp hdistinct j index (by omega) hindex hj
  simpa using hne

theorem operand?_enumeration {variants : List String} {index : UInt32}
    (h : (Value.enumeration index).Named (.enumeration variants)) :
    operand? (.enumeration variants) true
      (Cursor.ofValue (.enumeration variants) (.enumeration index)) =
        some (.enumeration index) := by
  have hlt : index.toNat < 0x100000000 := index.toNat_lt
  have hindex : UInt32.ofNat index.toNat = index := UInt32.ofNat_toNat
  rcases h variants index rfl rfl with rfl | ⟨hinside, htrim, hdistinct⟩
  · have hvalue : Cursor.ofValue (.enumeration []) (.enumeration index) =
        .number (.ofUInt32 index) := rfl
    have hread : (Json.Numeric.ofUInt32 index).uint64? = some (UInt64.ofNat index.toNat) := by
      rw [Json.Numeric.ofUInt32, Json.Numeric.uint64?, if_pos (by omega), Int.toNat_natCast]
    have hword : (UInt64.ofNat index.toNat).toNat = index.toNat := by
      refine UInt64.toNat_ofNat_of_lt' ?_
      change index.toNat < 0x10000000000000000
      omega
    rw [hvalue, operand?, ofNumeric?, hread, Option.bind_some, hword, enumeration?,
      if_pos ⟨hlt, Or.inl rfl⟩, hindex]
  · have hname : variants[index.toNat]? = some variants[index.toNat] :=
      List.getElem?_eq_getElem hinside
    have hvalue : Cursor.ofValue (.enumeration variants) (.enumeration index) =
        .text variants[index.toNat] := by
      simp only [Cursor.ofValue, hname]
    rw [hvalue, operand?, ofText?, variantIndex?_name htrim hdistinct hname]
    dsimp only
    rw [enumeration?, if_pos ⟨hlt, Or.inr hinside⟩, hindex]

/-- A value other than a timestamp is read back when its captured form is. -/
theorem readBack_of_operand? {kind : Kind} {value : Value} {operand : Operand}
    (hvalue : ∀ t, value ≠ .timestamp t)
    (hread : operand? kind true (Cursor.ofValue kind value) = some operand)
    (hfits : operand.Fits kind) (hrank : operand.toValue.rank = value.rank) :
    (value.Readable → ∃ operand, operand? kind true (Cursor.ofValue kind value) = some operand ∧
      operand.Fits kind ∧ operand.toValue.rank = value.rank) ∧
    (¬value.Readable → operand? kind true (Cursor.ofValue kind value) = none) :=
  ⟨fun _ => ⟨operand, hread, hfits, hrank⟩,
    fun h => absurd (fun t ht => absurd ht (hvalue t)) h⟩

/-- **A captured value is read back**, a timestamp as long as it is read back from its text. -/
theorem operand?_ofValue {kind : Kind} {value : Value} (hfits : value.Fits kind)
    (hnamed : value.Named kind) :
    (value.Readable → ∃ operand, operand? kind true (Cursor.ofValue kind value) = some operand ∧
      operand.Fits kind ∧ operand.toValue.rank = value.rank) ∧
    (¬value.Readable → operand? kind true (Cursor.ofValue kind value) = none) := by
  cases hfits with
  | text s => exact readBack_of_operand? (fun _ h => by cases h) rfl (.text s) rfl
  | signed n =>
      have hlow := n.le_toInt
      have hhigh := n.toInt_lt
      obtain ⟨hfits, hrank⟩ := number_whole (n := n.toInt) ⟨by omega, by omega⟩
      exact readBack_of_operand? (fun _ h => by cases h) rfl hfits hrank
  | unsigned n =>
      have hhigh := n.toNat_lt
      obtain ⟨hfits, hrank⟩ := number_whole (n := n.toNat) ⟨by omega, by omega⟩
      exact readBack_of_operand? (fun _ h => by cases h) rfl hfits hrank
  | timestamp t =>
      have hread : operand? .timestamp true (Cursor.ofValue .timestamp (.timestamp t)) =
          if t.Readable then some (.timestamp t) else none := by
        rw [Cursor.ofValue, operand?, ofText?, Timestamp.text, String.toList_ofList,
          Text.trimChars_of_notBlank Timestamp.notBlank_of_mem_chars, Timestamp.ofChars?_chars]
        split <;> rfl
      have hreadable : (Value.timestamp t).Readable ↔ t.Readable := by
        constructor
        · intro h
          exact h t rfl
        · rintro h _ ⟨⟩
          exact h
      rw [hread, hreadable]
      constructor
      · intro h
        exact ⟨.timestamp t, if_pos h, .timestamp t, rfl⟩
      · exact fun h => if_neg h
  | uuid u =>
      have hne : u.chars ≠ [] := by
        intro hnil
        have hlength : u.chars.length = 36 := rfl
        rw [hnil] at hlength
        cases hlength
      have hread : operand? .uuid true (Cursor.ofValue .uuid (.uuid u)) = some (.uuid u) := by
        have htrim := Text.trimChars_of_notBlank fun _ => Uuid.notBlank_of_mem_chars (u := u)
        rw [Cursor.ofValue, operand?, ofText?, Uuid.text, String.toList_ofList, htrim,
          if_neg (by simpa using hne), Uuid.ofChars?_chars, Option.map_some]
      exact readBack_of_operand? (fun _ h => by cases h) hread (.uuid u) rfl
  | enumeration variants index =>
      exact readBack_of_operand? (fun _ h => by cases h) (operand?_enumeration hnamed)
        (.enumeration variants index) rfl
  | bool b => exact readBack_of_operand? (fun _ h => by cases h) rfl (.bool b) rfl
  | absent => exact readBack_of_operand? (fun _ h => by cases h) rfl (.absent kind) rfl

end Coercion

namespace SortOrder

/-- Variants among the keys of the record can be told by their names. -/
def Named (order : SortOrder) (r : Record) : Prop :=
  ∀ key ∈ order.keys, (key.path.read r).Named key.path.leaf.kind

/-- Timestamps among the keys of the record are read back from their texts. -/
def Readable (order : SortOrder) (r : Record) : Prop :=
  ∀ key ∈ order.keys, (key.path.read r).Readable

end SortOrder

namespace Cursor

variable {order : SortOrder} {r : Record}

theorem capture_sorted : Keyed.Sorted (capture r order).values :=
  Keyed.ofList_sorted _

theorem capture_perm (horder : order.WellFormed) :
    (capture r order).values.Perm (order.keys.map fun key =>
      (key.path.text, ofValue key.path.leaf.kind (key.path.read r))) := by
  refine Keyed.ofList_perm ?_
  rw [List.map_map]
  exact horder.distinct

theorem scalar_ofValue {kind : Kind} {value : Value} (h : value.Fits kind) :
    (ofValue kind value).Scalar := by
  cases h with
  | text s => exact .text s
  | signed n => exact .whole _ _
  | unsigned n => exact .whole _ _
  | timestamp t => exact .text _
  | uuid u => exact .text _
  | enumeration variants index =>
      rw [ofValue]
      split
      · exact .text _
      · exact .whole _ _
  | bool b => exact .bool b
  | absent => exact .null

theorem capture_scalar (horder : order.WellFormed) (hr : order.Fits r) :
    ∀ member ∈ (capture r order).values, member.2.Scalar := by
  intro member hmember
  obtain ⟨key, hkey, rfl⟩ := List.mem_map.mp ((capture_perm horder).mem_iff.mp hmember)
  exact scalar_ofValue (hr key hkey)

theorem get?_capture (horder : order.WellFormed) {key : SortKey} (hkey : key ∈ order.keys) :
    (capture r order).get? key.path.text =
      some (ofValue key.path.leaf.kind (key.path.read r)) := by
  refine Keyed.get?_of_mem capture_sorted.nodup ?_
  exact (capture_perm horder).mem_iff.mpr (List.mem_map.mpr ⟨key, hkey, rfl⟩)

theorem operand_capture (horder : order.WellFormed) {key : SortKey} (hkey : key ∈ order.keys)
    {operand : Operand} :
    (capture r order).operand key = .ok operand ↔ Coercion.operand? key.path.leaf.kind true
      (ofValue key.path.leaf.kind (key.path.read r)) = some operand := by
  rw [operand_eq_ok, get?_capture horder hkey]
  simp

theorem boundary_capture_eq (horder : order.WellFormed) :
    (capture r order).boundary order = (capture r order).operands order.keys := by
  rw [Cursor.boundary, if_pos]
  rw [(capture_perm horder).length_eq, List.length_map]

theorem operands_capture {keys : List SortKey} {cursor : Cursor}
    (hget : ∀ key ∈ keys, cursor.get? key.path.text =
      some (ofValue key.path.leaf.kind (key.path.read r)))
    (hfits : ∀ key ∈ keys, (key.path.read r).Fits key.path.leaf.kind)
    (hnamed : ∀ key ∈ keys, (key.path.read r).Named key.path.leaf.kind)
    (hreadable : ∀ key ∈ keys, (key.path.read r).Readable) :
    ∃ boundary, cursor.operands keys = .ok boundary ∧
      List.Forall₂ (fun key operand => operand.Fits key.path.leaf.kind) keys boundary ∧
      (boundary.map Operand.toValue).map Value.rank =
        (keys.map fun key => key.path.read r).map Value.rank := by
  induction keys with
  | nil => exact ⟨[], rfl, .nil, rfl⟩
  | cons key keys ih =>
      obtain ⟨operand, hread, hoperand, hrank⟩ :=
        (Coercion.operand?_ofValue (hfits key (by simp)) (hnamed key (by simp))).1
          (hreadable key (by simp))
      obtain ⟨operands, hrest, hoperands, hranks⟩ := ih (fun k hk => hget k (by simp [hk]))
        (fun k hk => hfits k (by simp [hk])) (fun k hk => hnamed k (by simp [hk]))
        (fun k hk => hreadable k (by simp [hk]))
      refine ⟨operand :: operands, ?_, .cons hoperand hoperands, ?_⟩
      · rw [operands_eq_ok]
        refine .cons ?_ (operands_eq_ok.mp hrest)
        exact operand_eq_ok.mpr ⟨_, hget key (by simp), hread⟩
      · rw [List.map_cons, List.map_cons, List.map_cons, List.map_cons, hrank, hranks]

/-- **The boundary of a captured cursor is the tuple of its record.** -/
theorem boundary_capture (horder : order.WellFormed) (hr : order.Fits r) (hnamed : order.Named r)
    (hreadable : order.Readable r) :
    ∃ boundary, (capture r order).boundary order = .ok boundary ∧ order.Captures r boundary := by
  obtain ⟨boundary, hoperands, hfits, hranks⟩ :=
    operands_capture (fun key hkey => get?_capture horder hkey) hr hnamed hreadable
  exact ⟨boundary, (boundary_capture_eq horder).trans hoperands, hfits, hranks⟩

/-- Only a record whose timestamps are read back has a boundary. -/
theorem readable_of_boundary_capture (horder : order.WellFormed) (hr : order.Fits r)
    (hnamed : order.Named r) {boundary : List Operand}
    (h : (capture r order).boundary order = .ok boundary) : order.Readable r := by
  intro key hkey
  by_contra hunreadable
  rw [boundary_capture_eq horder] at h
  obtain ⟨operand, hoperand⟩ := exists_operand (operands_eq_ok.mp h) hkey
  rw [operand_capture horder hkey,
    (Coercion.operand?_ofValue (hr key hkey) (hnamed key hkey)).2 hunreadable] at hoperand
  cases hoperand

end Cursor

end RecordQuery
