import RecordQuery.Proofs.Base64
import RecordQuery.Proofs.Capture

/-!
# Tokens

A codec carries a cursor if its layers encode the payload and decoding undoes each step. The cursor
then has a token, which is decoded to the cursor if it is not too long. So the token of a record
stands for the tuple of the record, or for no boundary at all when a timestamp among its keys is not
read back.
-/

namespace RecordQuery

/-- Every text that is not empty has an encoded form that is not empty either, and decoding undoes
encoding. -/
def Layer.Invertible (layer : Layer) : Prop :=
  ∀ s, s ≠ "" → ∃ t, t ≠ "" ∧ layer.encode s = .ok t ∧ layer.decode t = .ok s

/-- Decoding undoes encoding wherever it succeeds, and no text is encoded as the empty one. -/
def Layer.Faithful (layer : Layer) : Prop :=
  ∀ s t, layer.encode s = .ok t → t ≠ "" ∧ layer.decode t = .ok s

/-- Each layer encodes what the layers before it made of the text, and decoding undoes that. What
comes out in the end is not empty. -/
inductive Layer.Carry : List Layer → String → Prop where
  | done {s : String} (hne : s ≠ "") : Carry [] s
  | step {layer : Layer} {layers : List Layer} {s t : String} (hencode : layer.encode s = .ok t)
      (hdecode : layer.decode t = .ok s) (hrest : Carry layers t) : Carry (layer :: layers) s

theorem Layer.Carry.spec {layers : List Layer} {s : String} (h : Layer.Carry layers s) :
    ∃ t, t ≠ "" ∧ Codec.encodeLayers layers s = .ok t ∧ Codec.decodeLayers layers t = .ok s := by
  induction h with
  | @done s hne => exact ⟨s, hne, rfl, rfl⟩
  | @step layer layers s u hencode hdecode _ ih =>
      obtain ⟨t, hne, hencodes, hdecodes⟩ := ih
      refine ⟨t, hne, ?_, ?_⟩
      · rw [Codec.encodeLayers, hencode]
        exact hencodes
      · rw [Codec.decodeLayers, bind_eq_ok]
        refine ⟨u, hdecodes, ?_⟩
        simp only [hdecode]

theorem Layer.carry_of_invertible {layers : List Layer} (h : ∀ layer ∈ layers, layer.Invertible)
    {s : String} (hs : s ≠ "") : Layer.Carry layers s := by
  induction layers generalizing s with
  | nil => exact .done hs
  | cons layer layers ih =>
      obtain ⟨t, ht, hencode, hdecode⟩ := h layer (by simp) s hs
      exact .step hencode hdecode (ih (fun other hother => h other (by simp [hother])) ht)

theorem Layer.carry_of_faithful {layers : List Layer} (h : ∀ layer ∈ layers, layer.Faithful)
    {s t : String} (hs : s ≠ "") (hencode : Codec.encodeLayers layers s = .ok t) :
    Layer.Carry layers s := by
  induction layers generalizing s with
  | nil => exact .done hs
  | cons layer layers ih =>
      obtain ⟨u, hfirst, hrest⟩ := bind_eq_ok.mp hencode
      obtain ⟨hu, hdecode⟩ := h layer (by simp) s u hfirst
      exact .step hfirst hdecode (ih (fun other hother => h other (by simp [hother])) hu hrest)

namespace Codec

def Faithful (codec : Codec) : Prop :=
  ∀ layer ∈ codec.layers, layer.Faithful

def Invertible (codec : Codec) : Prop :=
  ∀ layer ∈ codec.layers, layer.Invertible

def Carries (codec : Codec) (cursor : Cursor) : Prop :=
  Layer.Carry codec.layers cursor.toJson.render

theorem unwrap_encode (s : String) : unwrap (Text.Base64.encode (bytes s)) = .ok s := by
  rw [unwrap, Text.Base64.decode_encode]
  dsimp only
  rw [ofBytes?_bytes]

theorem readPayload_render {cursor : Cursor} (hsorted : Keyed.Sorted cursor.values)
    (hscalar : ∀ member ∈ cursor.values, member.2.Scalar) :
    readPayload cursor.toJson.render = .ok cursor := by
  rw [readPayload, Cursor.toJson, Json.read?_render hsorted hscalar]
  rfl

theorem render_ne_empty (cursor : Cursor) : cursor.toJson.render ≠ "" := by
  intro hempty
  have hchars := congrArg String.toList hempty
  rw [Cursor.toJson, Json.render, String.toList_ofList, Json.write] at hchars
  cases hchars

theorem Invertible.carries {codec : Codec} (hcodec : codec.Invertible) (cursor : Cursor) :
    codec.Carries cursor :=
  Layer.carry_of_invertible hcodec (render_ne_empty cursor)

theorem Faithful.carries {codec : Codec} (hcodec : codec.Faithful) {cursor : Cursor}
    {token : String} (htoken : codec.encode cursor = .ok token) : codec.Carries cursor := by
  obtain ⟨t, hencode, -⟩ := bind_eq_ok.mp htoken
  exact Layer.carry_of_faithful hcodec (render_ne_empty cursor) hencode

/-- **A cursor of scalars that is carried has a token that is decoded to the cursor**, if it is not
too long. -/
theorem encode_spec {codec : Codec} {cursor : Cursor} (hcarried : codec.Carries cursor)
    (hsorted : Keyed.Sorted cursor.values)
    (hscalar : ∀ member ∈ cursor.values, member.2.Scalar) :
    ∃ token, codec.encode cursor = .ok token ∧ Text.isBlank token = false ∧
      codec.decode token =
        if tokenLimit < token.utf8ByteSize then .error (.malformedCursor .tokenTooLong)
        else .ok cursor := by
  obtain ⟨t, ht, hencode, hdecode⟩ := hcarried.spec
  have hne := Text.Base64.encode_ne_nil (bytes_ne_nil ht)
  have hblank : ∀ c ∈ Text.Base64.encode (bytes t), Text.isBlankChar c = false :=
    fun _ => Text.Base64.notBlank_of_mem_encode
  refine ⟨String.ofList (Text.Base64.encode (bytes t)), ?_, ?_, ?_⟩
  · rw [encode, hencode]
    rfl
  · obtain ⟨c, cs, hcs⟩ := List.exists_cons_of_ne_nil hne
    rw [Text.isBlank, String.toList_ofList, hcs, List.all_cons, hblank c (by simp [hcs]),
      Bool.false_and]
  · have htrim : Text.trim (String.ofList (Text.Base64.encode (bytes t))) =
        String.ofList (Text.Base64.encode (bytes t)) := by
      rw [Text.trim, String.toList_ofList, Text.trimChars_of_notBlank hblank]
    have hfull : (String.ofList (Text.Base64.encode (bytes t))).isEmpty = false := by
      rw [← Bool.not_eq_true, String.isEmpty_iff, String.ofList_eq_empty_iff]
      exact hne
    rw [decode]
    simp only [htrim, hfull, Bool.false_eq_true, if_false]
    split
    · rfl
    · rw [String.toList_ofList, unwrap_encode]
      change (do
        let payload ← decodeLayers codec.layers t
        readPayload payload) = _
      rw [hdecode]
      exact readPayload_render hsorted hscalar

/-! ### The token of a record -/

section Record

variable {codec : Codec} {order : SortOrder} {r : Record} {token : String}
  (hcarried : codec.Carries (.capture r order)) (horder : order.WellFormed) (hr : order.Fits r)

include hcarried horder hr

theorem exists_token :
    ∃ token, codec.encode (.capture r order) = .ok token ∧ Text.isBlank token = false := by
  obtain ⟨token, hencode, hblank, -⟩ := encode_spec hcarried
    Cursor.capture_sorted (Cursor.capture_scalar horder hr)
  exact ⟨token, hencode, hblank⟩

theorem decode_token
    (htoken : codec.encode (.capture r order) = .ok token) :
    Text.isBlank token = false ∧ codec.decode token =
      if tokenLimit < token.utf8ByteSize then .error (.malformedCursor .tokenTooLong)
      else .ok (.capture r order) := by
  obtain ⟨other, hencode, hblank, hdecode⟩ := encode_spec hcarried
    Cursor.capture_sorted (Cursor.capture_scalar horder hr)
  rw [htoken] at hencode
  obtain rfl := Except.ok.inj hencode
  exact ⟨hblank, hdecode⟩

/-- **A token that is accepted stands for the tuple of its record.** -/
theorem captures_of_boundary (hnamed : order.Named r)
    (htoken : codec.encode (.capture r order) = .ok token) {boundary : List Operand}
    (h : codec.boundary token order = .ok boundary) :
    order.Captures r boundary ∧ order.Readable r := by
  obtain ⟨cursor, hcursor, hboundary⟩ := bind_eq_ok.mp h
  rw [(decode_token hcarried horder hr htoken).2] at hcursor
  split at hcursor
  · cases hcursor
  · cases hcursor
    have hreadable := Cursor.readable_of_boundary_capture horder hr hnamed hboundary
    obtain ⟨other, hother, hcaptures⟩ := Cursor.boundary_capture horder hr hnamed hreadable
    rw [hboundary] at hother
    cases hother
    exact ⟨hcaptures, hreadable⟩

/-- **The token of a record is accepted** if it is not too long and the timestamps among the keys
are read back. -/
theorem exists_boundary (hnamed : order.Named r) (hreadable : order.Readable r)
    (htoken : codec.encode (.capture r order) = .ok token)
    (hlength : token.utf8ByteSize ≤ tokenLimit) :
    ∃ boundary, codec.boundary token order = .ok boundary ∧ order.Captures r boundary := by
  obtain ⟨boundary, hboundary, hcaptures⟩ := Cursor.boundary_capture horder hr hnamed hreadable
  refine ⟨boundary, bind_eq_ok.mpr ⟨.capture r order, ?_, hboundary⟩, hcaptures⟩
  rw [(decode_token hcarried horder hr htoken).2, if_neg (by omega)]

/-- **The token of a record is accepted** exactly when the timestamps among the keys are read back
and the token is not too long. -/
theorem exists_boundary_iff (hnamed : order.Named r)
    (htoken : codec.encode (.capture r order) = .ok token) :
    (∃ boundary, codec.boundary token order = .ok boundary) ↔
      order.Readable r ∧ token.utf8ByteSize ≤ tokenLimit := by
  constructor
  · rintro ⟨boundary, hboundary⟩
    refine ⟨(captures_of_boundary hcarried horder hr hnamed htoken hboundary).2, ?_⟩
    obtain ⟨cursor, hcursor, -⟩ := bind_eq_ok.mp hboundary
    rw [(decode_token hcarried horder hr htoken).2] at hcursor
    by_contra hlong
    rw [if_pos (Nat.not_le.mp hlong)] at hcursor
    cases hcursor
  · rintro ⟨hreadable, hlength⟩
    obtain ⟨boundary, hboundary, -⟩ :=
      exists_boundary hcarried horder hr hnamed hreadable htoken hlength
    exact ⟨boundary, hboundary⟩

end Record

end Codec

/-! ### Refused tokens -/

/-- The only errors are those of malformed cursors. -/
def Malformed {α : Type} (x : Except QueryError α) : Prop :=
  ∀ error, x = .error error → ∃ fault, error = .malformedCursor fault

theorem malformed_ok {α : Type} (a : α) : Malformed (.ok a) := by
  intro error h
  cases h

theorem malformed_error {α : Type} (fault : CursorFault) :
    Malformed (.error (.malformedCursor fault) : Except QueryError α) := by
  intro error h
  exact ⟨fault, (Except.error.inj h).symm⟩

theorem Malformed.bind {α β : Type} {x : Except QueryError α} {f : α → Except QueryError β}
    (hx : Malformed x) (hf : ∀ a, Malformed (f a)) : Malformed (x >>= f) := by
  cases x with
  | error error =>
      intro other h
      exact hx other (congrArg Except.error (Except.error.inj h))
  | ok a => exact hf a

theorem Cursor.malformed_operands (cursor : Cursor) (keys : List SortKey) :
    Malformed (cursor.operands keys) := by
  induction keys with
  | nil => exact malformed_ok []
  | cons key keys ih =>
      refine Malformed.bind ?_ fun first => ih.bind fun rest => malformed_ok _
      rw [operand]
      split
      · exact malformed_error _
      · split
        · exact malformed_ok _
        · exact malformed_error _

theorem Cursor.malformed_boundary (cursor : Cursor) (order : SortOrder) :
    Malformed (cursor.boundary order) := by
  rw [boundary]
  split
  · exact malformed_operands cursor order.keys
  · exact malformed_error _

namespace Codec

theorem malformed_decodeLayers (layers : List Layer) (s : String) :
    Malformed (decodeLayers layers s) := by
  induction layers with
  | nil => exact malformed_ok s
  | cons layer layers ih =>
      refine ih.bind fun s => ?_
      split
      · exact malformed_ok _
      · exact malformed_error _

theorem malformed_decode (codec : Codec) (token : String) : Malformed (codec.decode token) := by
  rw [decode]
  split
  · exact malformed_error _
  · split
    · exact malformed_error _
    · refine Malformed.bind ?_ fun s => (malformed_decodeLayers codec.layers s).bind fun s => ?_
      · rw [unwrap]
        split
        · exact malformed_error _
        · split
          · exact malformed_error _
          · exact malformed_ok _
      · rw [readPayload]
        split
        · exact malformed_ok _
        · exact malformed_error _

/-- **Whatever is wrong with a token, the error is that of a malformed cursor.** -/
theorem malformed_boundary (codec : Codec) (token : String) (order : SortOrder) :
    Malformed (codec.boundary token order) :=
  (codec.malformed_decode token).bind fun cursor => cursor.malformed_boundary order

end Codec

end RecordQuery
