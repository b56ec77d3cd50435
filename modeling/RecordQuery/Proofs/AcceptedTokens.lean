import RecordQuery.Proofs.Listing
import RecordQuery.Proofs.Token

/-!
# Accepted tokens

A token is accepted exactly when the cursor it is decoded to names the keys of the sort order and
nothing else, and each of its values can be coerced to the kind of its key. Then there is one
operand for each key. Whatever else a text may be, it is refused with the error of a malformed
cursor.
-/

namespace RecordQuery

/-! ### Decoded cursors -/

/-- The members of a JSON object that was read are sorted by their keys. -/
theorem Json.sorted_of_read? {payload : String} {members : List (String × Json)}
    (h : Json.read? payload = some (.object members)) : Keyed.Sorted members := by
  obtain ⟨tree, -, htree⟩ := Option.bind_eq_some_iff.mp h
  cases tree with
  | object items =>
      obtain ⟨read, -, hread⟩ := Option.map_eq_some_iff.mp htree
      cases hread
      exact Keyed.ofList_sorted read
  | null => cases htree
  | bool b => cases htree
  | number value =>
      obtain ⟨_, -, heq⟩ := Option.map_eq_some_iff.mp htree
      cases heq
  | text value =>
      obtain ⟨_, -, heq⟩ := Option.map_eq_some_iff.mp htree
      cases heq
  | array items =>
      obtain ⟨_, -, heq⟩ := Option.map_eq_some_iff.mp htree
      cases heq

namespace Codec

theorem readPayload_eq_ok {payload : String} {cursor : Cursor} :
    readPayload payload = .ok cursor ↔ Json.read? payload = some cursor.toJson := by
  obtain ⟨values⟩ := cursor
  rw [readPayload]
  cases hread : Json.read? payload with
  | none => simp
  | some value => cases value <;> simp [Cursor.ofJson?, Cursor.toJson]

/-- Whatever the layers are, what is decoded in the end was read from the text of a JSON object. -/
theorem exists_payload {codec : Codec} {token : String} {cursor : Cursor}
    (h : codec.decode token = .ok cursor) : ∃ payload, Json.read? payload = some cursor.toJson := by
  rw [decode] at h
  split at h
  · cases h
  · split at h
    · cases h
    · obtain ⟨s, -, h⟩ := bind_eq_ok.mp h
      obtain ⟨payload, -, h⟩ := bind_eq_ok.mp h
      exact ⟨payload, readPayload_eq_ok.mp h⟩

theorem sorted_of_decode {codec : Codec} {token : String} {cursor : Cursor}
    (h : codec.decode token = .ok cursor) : Keyed.Sorted cursor.values := by
  obtain ⟨payload, hpayload⟩ := exists_payload h
  exact Json.sorted_of_read? hpayload

end Codec

/-! ### Cursors of a sort order -/

namespace Cursor

variable {cursor : Cursor} {order : SortOrder}

/-- The paths in the cursor are exactly those of the sort keys. -/
def Names (cursor : Cursor) (order : SortOrder) : Prop :=
  ∀ path, (cursor.get? path).isSome ↔ ∃ key ∈ order.keys, key.path.text = path

/-- Each value in the cursor can be coerced to the kind of its key, and null to any kind. -/
def Coerces (cursor : Cursor) (order : SortOrder) : Prop :=
  ∀ key ∈ order.keys, ∀ value, cursor.get? key.path.text = some value →
    ∃ operand, coerce key.path.leaf.kind true value = .ok operand

/-- What a boundary holds for a key: the value at the path of the key, null or of its kind. -/
structure Supplies (cursor : Cursor) (key : SortKey) (operand : Operand) : Prop where
  coerced : ∃ value, cursor.get? key.path.text = some value ∧
    coerce key.path.leaf.kind true value = .ok operand
  ofKind : operand.OfKind key.path.leaf.kind true

theorem operand_eq_ok_iff_supplies {key : SortKey} {operand : Operand} :
    cursor.operand key = .ok operand ↔ cursor.Supplies key operand := by
  constructor
  · intro h
    obtain ⟨value, hvalue, hoperand⟩ := operand_eq_ok.mp h
    exact ⟨⟨value, hvalue, coerce_eq_ok.mpr hoperand⟩, Coercion.operand?_ofKind hoperand⟩
  · rintro ⟨⟨value, hvalue, hoperand⟩, -⟩
    exact operand_eq_ok.mpr ⟨value, hvalue, coerce_eq_ok.mp hoperand⟩

theorem isSome_get? (hcursor : Keyed.Sorted cursor.values) (path : String) :
    (cursor.get? path).isSome ↔ path ∈ cursor.values.map Prod.fst := by
  rw [Option.isSome_iff_exists, List.mem_map]
  constructor
  · rintro ⟨value, hvalue⟩
    exact ⟨(path, value), Keyed.mem_of_get? hvalue, rfl⟩
  · rintro ⟨⟨_, value⟩, hmem, rfl⟩
    exact ⟨value, Keyed.get?_of_mem hcursor.nodup hmem⟩

/-- Paths and keys are distinct on both sides, so the same paths are as many. -/
theorem names_iff_perm (hcursor : Keyed.Sorted cursor.values) (horder : order.WellFormed) :
    cursor.Names order ↔
      (order.keys.map fun key => key.path.text).Perm (cursor.values.map Prod.fst) := by
  rw [List.perm_ext_iff_of_nodup horder.distinct hcursor.nodup, Names]
  refine forall_congr' fun path => ?_
  rw [isSome_get? hcursor, List.mem_map, List.mem_map]
  exact iff_comm

theorem Names.length_eq (hnames : cursor.Names order) (hcursor : Keyed.Sorted cursor.values)
    (horder : order.WellFormed) : cursor.values.length = order.keys.length := by
  simpa using ((names_iff_perm hcursor horder).mp hnames).length_eq.symm

/-- As many distinct paths as keys, and each key among them: there is no room for another path. -/
theorem names_of_length (hcursor : Keyed.Sorted cursor.values) (horder : order.WellFormed)
    (hlength : cursor.values.length = order.keys.length)
    (hkeys : ∀ key ∈ order.keys, (cursor.get? key.path.text).isSome) : cursor.Names order := by
  rw [names_iff_perm hcursor horder]
  refine List.Subperm.perm_of_length_le (horder.distinct.subperm ?_) (by simp [hlength])
  intro path hpath
  obtain ⟨key, hkey, rfl⟩ := List.mem_map.mp hpath
  exact (isSome_get? hcursor _).mp (hkeys key hkey)

/-- **A cursor is read to a boundary** exactly when it names the keys and supplies each operand. -/
theorem boundary_eq_ok (hcursor : Keyed.Sorted cursor.values) (horder : order.WellFormed)
    {boundary : List Operand} :
    cursor.boundary order = .ok boundary ↔
      cursor.Names order ∧ List.Forall₂ cursor.Supplies order.keys boundary := by
  have hoperands : cursor.operands order.keys = .ok boundary ↔
      List.Forall₂ cursor.Supplies order.keys boundary := by
    simp only [operands_eq_ok, operand_eq_ok_iff_supplies]
  rw [Cursor.boundary]
  split
  next hlength =>
    rw [hoperands, iff_and_self]
    intro hsupplies
    refine names_of_length hcursor horder hlength fun key hkey => ?_
    obtain ⟨operand, hoperand⟩ := exists_operand (operands_eq_ok.mp (hoperands.mpr hsupplies)) hkey
    obtain ⟨value, hvalue, -⟩ := operand_eq_ok.mp hoperand
    exact Option.isSome_iff_exists.mpr ⟨value, hvalue⟩
  next hlength =>
    simp only [reduceCtorEq, false_iff, not_and]
    intro hnames
    exact absurd (hnames.length_eq hcursor horder) hlength

theorem exists_boundary_of_names (hcursor : Keyed.Sorted cursor.values) (horder : order.WellFormed)
    (hnames : cursor.Names order) (hcoerces : cursor.Coerces order) :
    ∃ boundary, cursor.boundary order = .ok boundary := by
  rw [Cursor.boundary, if_pos (hnames.length_eq hcursor horder)]
  refine exists_operands_iff.mpr fun key hkey => ?_
  obtain ⟨value, hvalue⟩ :=
    Option.isSome_iff_exists.mp ((hnames key.path.text).mpr ⟨key, hkey, rfl⟩)
  obtain ⟨operand, hoperand⟩ := hcoerces key hkey value hvalue
  exact ⟨operand, operand_eq_ok.mpr ⟨value, hvalue, coerce_eq_ok.mp hoperand⟩⟩

end Cursor

/-- **Decoding fails closed.** Whatever text is offered as a token, each error is that of a
malformed cursor. An accepted token holds exactly the keys of the sort order and gives one operand
for each, in key order. A token that holds exactly these keys with values of their kinds or null is
accepted. -/
theorem Codec.boundary_fails_closed {schema : Schema} {sort : String} {tie : Option String}
    {order : SortOrder} (hcompile : SortOrder.compile schema sort tie = .ok order) (codec : Codec)
    (token : String) :
    (∀ error, codec.boundary token order = .error error →
      ∃ fault, error = .malformedCursor fault) ∧
    (∀ boundary, codec.boundary token order = .ok boundary →
      ∃ cursor, codec.decode token = .ok cursor ∧ cursor.Names order ∧
        List.Forall₂ cursor.Supplies order.keys boundary) ∧
    ∀ cursor, codec.decode token = .ok cursor → cursor.Names order → cursor.Coerces order →
      ∃ boundary, codec.boundary token order = .ok boundary := by
  have horder := SortOrder.wellFormed_of_compile hcompile
  refine ⟨codec.malformed_boundary token order, ?_, ?_⟩
  · intro boundary h
    obtain ⟨cursor, hcursor, hboundary⟩ := bind_eq_ok.mp h
    exact ⟨cursor, hcursor,
      (Cursor.boundary_eq_ok (sorted_of_decode hcursor) horder).mp hboundary⟩
  · intro cursor hcursor hnames hcoerces
    obtain ⟨boundary, hboundary⟩ :=
      Cursor.exists_boundary_of_names (sorted_of_decode hcursor) horder hnames hcoerces
    exact ⟨boundary, bind_eq_ok.mpr ⟨cursor, hcursor, hboundary⟩⟩

/-- The token of the members `at`, which is null, and `id`, which is 7. -/
def Event.timelessToken : String := "eyJhdCI6bnVsbCwiaWQiOjd9"

theorem Event.timelessToken_accepted :
    ∃ cursor, Codec.decode ⟨[]⟩ timelessToken = .ok cursor ∧ cursor.Names listing.order ∧
      ∃ boundary, Codec.boundary ⟨[]⟩ timelessToken listing.order = .ok boundary ∧
        List.Forall₂ cursor.Supplies listing.order.keys boundary := by
  have haccepted : (Codec.boundary ⟨[]⟩ timelessToken listing.order).toBool = true := by
    decide +kernel
  obtain ⟨boundary, hboundary⟩ := toBool_eq_true.mp haccepted
  obtain ⟨-, hspec, -⟩ := Codec.boundary_fails_closed compile_order ⟨[]⟩ timelessToken
  obtain ⟨cursor, hcursor, hnames, hsupplies⟩ := hspec boundary hboundary
  exact ⟨cursor, hcursor, hnames, boundary, hboundary, hsupplies⟩

end RecordQuery
