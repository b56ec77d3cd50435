import RecordQuery.Proofs.Neighbors

/-!
# The round trip of a token

The cursor of a record survives its token, whatever layers carry it. The values survive it too,
except that a timestamp of a year without four digits is written in a form that is not read.
-/

namespace RecordQuery

theorem readAs_of_ranks {keys : List SortKey} {r : Record} {boundary : List Operand}
    (hr : ∀ key ∈ keys, (key.path.read r).Fits key.path.leaf.kind)
    (hfits : List.Forall₂ (fun key operand => operand.Fits key.path.leaf.kind) keys boundary)
    (hranks : (boundary.map Operand.toValue).map Value.rank =
      (keys.map fun key => key.path.read r).map Value.rank) :
    List.Forall₂ (fun key operand => (key.path.read r).ReadAs operand) keys boundary := by
  induction hfits with
  | nil => exact .nil
  | @cons key operand keys boundary hoperand _ ih =>
      obtain ⟨hrank, hranks⟩ := List.cons.inj hranks
      have hvalue := hr key (by simp)
      exact .cons (Value.readAs_of_rank hvalue hoperand hrank)
        (ih (fun other hother => hr other (by simp [hother])) hranks)

namespace Codec

/-- **The round trip of a token.** The token of a record whose keys are absent or of their declared
kinds is decoded to the cursor that it was made of, and so encoded again to itself. It has a
boundary exactly when the timestamps among the keys are read back, and the boundary then has the
value of each key. -/
theorem round_trip_iff {schema : Schema} {sort : String} {tie : Option String} {order : SortOrder}
    (hcompile : SortOrder.compile schema sort tie = .ok order) {r : Record} (hr : order.Fits r)
    (hnamed : order.Named r) {codec : Codec} (hcarried : codec.Carries (.capture r order))
    {token : String} (htoken : codec.encode (.capture r order) = .ok token)
    (hlength : token.utf8ByteSize ≤ tokenLimit) :
    codec.decode token = .ok (.capture r order) ∧ codec.decode token >>= codec.encode = .ok token ∧
      ((∃ boundary, codec.boundary token order = .ok boundary) ↔ order.Readable r) ∧
      ∀ boundary, codec.boundary token order = .ok boundary →
        List.Forall₂ (fun key operand => (key.path.read r).ReadAs operand) order.keys boundary := by
  have horder := SortOrder.wellFormed_of_compile hcompile
  have hdecode : codec.decode token = .ok (.capture r order) := by
    rw [(decode_token hcarried horder hr htoken).2, if_neg (Nat.not_lt.mpr hlength)]
  refine ⟨hdecode, ?_, ?_, ?_⟩
  · rw [hdecode]
    exact htoken
  · rw [exists_boundary_iff hcarried horder hr hnamed htoken, and_iff_left hlength]
  · intro boundary hboundary
    obtain ⟨⟨hfits, hranks⟩, -⟩ :=
      captures_of_boundary hcarried horder hr hnamed htoken hboundary
    exact readAs_of_ranks hr hfits hranks

end Codec

/-! ### Layers -/

namespace Layer

/-- The text from its end. -/
def reversal : Layer where
  encode s := .ok (String.ofList s.toList.reverse)
  decode s := .ok (String.ofList s.toList.reverse)

/-- The text behind a mark, which has to be there again. -/
def marked (mark : String) : Layer where
  encode s := .ok (mark ++ s)
  decode s :=
    if mark.toList.isPrefixOf s.toList then .ok (String.ofList (s.toList.drop mark.length))
    else .error (.malformedCursor (.refused "mark missing"))

theorem reversal_invertible : reversal.Invertible := by
  intro s hs
  refine ⟨String.ofList s.toList.reverse, ?_, rfl, ?_⟩
  · simpa using hs
  · simp [reversal]

theorem marked_invertible (mark : String) : (marked mark).Invertible := by
  intro s hs
  refine ⟨mark ++ s, ?_, rfl, ?_⟩
  · intro hempty
    have hchars := congrArg String.toList hempty
    rw [String.toList_append] at hchars
    exact hs (String.toList_eq_nil_iff.mp (List.append_eq_nil_iff.mp hchars).2)
  · simp [marked, List.isPrefixOf_iff_prefix, ← String.length_toList]

end Layer

namespace Event

theorem named_record (e : Event) : listing.order.Named e.record :=
  named [e] e (by simp [matching_eq])

/-- Two layers over the payload. -/
def sealedCodec : Codec := ⟨[.marked "v1:", .reversal]⟩

theorem sealedCodec_invertible : sealedCodec.Invertible := by
  intro layer hlayer
  rcases List.mem_pair.mp hlayer with rfl | rfl
  · exact Layer.marked_invertible "v1:"
  · exact Layer.reversal_invertible

/-- An event of the year 1970 makes the round trip through both layers. -/
theorem round_trip_sealed :
    ∃ token boundary, sealedCodec.encode (.capture (record ⟨1, 1000⟩) listing.order) = .ok token ∧
      sealedCodec.boundary token listing.order = .ok boundary ∧
      List.Forall₂ (fun key operand => (key.path.read (record ⟨1, 1000⟩)).ReadAs operand)
        listing.order.keys boundary := by
  have hcarried := sealedCodec_invertible.carries (.capture (record ⟨1, 1000⟩) listing.order)
  have hlength : (sealedCodec.encode (.capture (record ⟨1, 1000⟩) listing.order)).toOption.map
      (fun token => decide (token.utf8ByteSize ≤ Codec.tokenLimit)) = some true := by decide +kernel
  obtain ⟨token, htoken, hlength⟩ := toOption_map_eq_some.mp hlength
  obtain ⟨-, -, haccepted, hvalues⟩ := Codec.round_trip_iff compile_order (fits ⟨1, 1000⟩)
    (named_record ⟨1, 1000⟩) hcarried htoken (of_decide_eq_true hlength)
  have hreadable : listing.Readable (⟨1, 1000⟩ : Event) := (readable_iff _).mpr (by decide +kernel)
  obtain ⟨boundary, hboundary⟩ := haccepted.mpr hreadable
  exact ⟨token, boundary, htoken, hboundary, hvalues boundary hboundary⟩

/-- The token of an event of the year 10000 is decoded, but its time is not read back. -/
theorem no_boundary_of_late :
    SortOrder.compile schema "at" (some "id") = .ok listing.order ∧
      listing.order.Fits (record ⟨1, 253402300800000⟩) ∧
      listing.order.Named (record ⟨1, 253402300800000⟩) ∧ listing.codec.Invertible ∧
      ∃ token, listing.codec.encode (.capture (record ⟨1, 253402300800000⟩) listing.order) =
          .ok token ∧
        token.utf8ByteSize ≤ Codec.tokenLimit ∧
        ¬∃ boundary, listing.codec.boundary token listing.order = .ok boundary := by
  refine ⟨compile_order, fits _, named_record _, invertible, ?_⟩
  have hrefused : (listing.codec.encode
      (.capture (record ⟨1, 253402300800000⟩) listing.order)).toOption.map (fun token =>
        decide (token.utf8ByteSize ≤ Codec.tokenLimit) &&
          !(listing.codec.boundary token listing.order).toBool) = some true := by decide +kernel
  obtain ⟨token, htoken, hrefused⟩ := toOption_map_eq_some.mp hrefused
  obtain ⟨hlength, hboundary⟩ := Bool.and_eq_true_iff.mp hrefused
  refine ⟨token, htoken, of_decide_eq_true hlength, ?_⟩
  rw [← toBool_eq_true]
  simpa using hboundary

end Event

end RecordQuery
