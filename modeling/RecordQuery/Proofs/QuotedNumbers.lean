import RecordQuery.Coercion
import RecordQuery.Proofs.TextParts
import RecordQuery.Proofs.TimestampText

/-!
# Quoted whole numbers

A whole number of 64 bits may be given to a field as a number or as the text of its decimal numeral.
The readers of texts find in the numeral what the number holds, and no date, identifier or name of a
variant, so both become the same operand or neither becomes one.
-/

namespace RecordQuery

namespace Text

theorem map_toLower_eq_self {cs : List Char} (h : ∀ c ∈ cs, c.isAlpha = false) :
    cs.map Char.toLower = cs := by
  conv_rhs => rw [← List.map_id cs]
  exact List.map_congr_left fun c hc => (toLower_eq_iff (h c hc)).mpr rfl

/-- A text without letters has one spelling only. -/
theorem eq_of_sameName {a b : String} (h : sameName a b = true)
    (hb : ∀ c ∈ b.toList, c.isAlpha = false) : a = b := by
  have hlower : a.toList.map Char.toLower = b.toList.map Char.toLower := by
    simpa using congrArg String.toList (sameName_iff.mp h)
  have ha : ∀ c ∈ a.toList, c.isAlpha = false := by
    intro c hc
    have hmem : c.toLower ∈ b.toList.map Char.toLower := hlower ▸ List.mem_map_of_mem hc
    obtain ⟨d, hd, hsame⟩ := List.mem_map.mp hmem
    rw [← Char.isAlpha_toLower_eq_isAlpha, ← hsame, Char.isAlpha_toLower_eq_isAlpha, hb d hd]
  rw [← String.toList_inj, ← map_toLower_eq_self ha, hlower, map_toLower_eq_self hb]

end Text

/-- The names of the variants of an enumeration. -/
def Kind.variants : Kind → List String
  | enumeration variants => variants
  | _ => []

namespace Numeral

theorem isAlpha_of_mem_ofInt {n : Int} : ∀ c ∈ ofInt n, c.isAlpha = false := by
  have hdigits : ∀ c ∈ ofNat n.natAbs, c.isAlpha = false := by
    intro c hc
    have hdigit := isDigit_of_mem_ofNat hc
    simp only [Char.isDigit, Bool.and_eq_true, decide_eq_true_eq, ge_iff_le,
      UInt32.le_iff_toNat_le] at hdigit
    simp only [Char.isAlpha, Char.isUpper, Char.isLower, Bool.or_eq_false_iff,
      Bool.and_eq_false_iff, decide_eq_false_iff_not, ge_iff_le, UInt32.le_iff_toNat_le]
    simp at hdigit ⊢
    omega
  rw [ofInt]
  split
  · exact List.forall_mem_cons.mpr ⟨rfl, hdigits⟩
  · exact hdigits

theorem unsigned?_ofInt (n : Int) :
    unsigned? (ofInt n) = if 0 ≤ n then some n.toNat else none := by
  rw [ofInt]
  by_cases hneg : n < 0
  · rw [if_pos hneg, if_neg (by omega)]
    exact natural?_eq_none (c := '-') (by simp) rfl
  · rw [if_neg hneg, if_pos (by omega)]
    obtain ⟨c, cs, hcs⟩ := List.exists_cons_of_ne_nil (ofNat_ne_nil n.natAbs)
    have hplus : c ≠ '+' := ne_of_isDigit (isDigit_of_mem_ofNat (n := n.natAbs) (by simp [hcs])) rfl
    have hread : unsigned? (ofNat n.natAbs) = natural? (ofNat n.natAbs) := by
      rw [hcs, unsigned?]
      intro rest hrest
      exact hplus (List.cons.inj hrest).1
    rw [hread, natural?_ofNat]
    congr 1
    omega

theorem unsignedWithin?_ofInt (bits : Nat) (n : Int) :
    unsignedWithin? bits (ofInt n) =
      if 0 ≤ n ∧ n.toNat < 2 ^ bits then some n.toNat else none := by
  rw [unsignedWithin?, unsigned?_ofInt]
  by_cases hpos : 0 ≤ n
  · simp [hpos, Option.filter_some]
  · simp [hpos]

theorem signedWithin?_ofInt (bits : Nat) (n : Int) :
    signedWithin? bits (ofInt n) =
      if -2 ^ (bits - 1) ≤ n ∧ n < 2 ^ (bits - 1) then some n else none := by
  rw [signedWithin?, signed?_ofInt, Option.filter_some]
  simp

theorem length_ofInt_le {n : Int} (h : n.natAbs < 10 ^ 20) : (ofInt n).length ≤ 21 := by
  have hlength : (ofNat n.natAbs).length ≤ 20 :=
    (Nat.length_toDigits_le_iff (by decide) (by decide)).mpr h
  rw [ofInt]
  split <;> simp <;> omega

end Numeral

/-! ### Words -/

namespace Json.Numeric

variable {n : Int} (range : -0x8000000000000000 ≤ n ∧ n < 0x10000000000000000)

theorem int64?_chars : Numeral.int64? (whole n range).chars = (whole n range).int64? := by
  rw [chars, Numeral.int64?, Numeral.signedWithin?_ofInt, int64?]
  by_cases hfits : n < 0x8000000000000000
  · rw [if_pos ⟨by omega, by omega⟩, if_pos hfits]
    rfl
  · rw [if_neg (by omega), if_neg hfits]
    rfl

theorem uint64?_chars : Numeral.uint64? (whole n range).chars = (whole n range).uint64? := by
  rw [chars, Numeral.uint64?, Numeral.unsignedWithin?_ofInt, uint64?]
  by_cases hpos : 0 ≤ n
  · rw [if_pos ⟨hpos, by omega⟩, if_pos hpos]
    rfl
  · rw [if_neg (by omega), if_neg hpos]
    rfl

end Json.Numeric

/-! ### Readers -/

section

variable {n : Int} (range : -0x8000000000000000 ≤ n ∧ n < 0x10000000000000000)

theorem Number.ofChars?_chars :
    ofChars? (Json.Numeric.whole n range).chars = some (ofJson (.whole n range)) := by
  rw [ofChars?, Json.Numeric.int64?_chars, Json.Numeric.uint64?_chars, Json.Numeric.int64?,
    Json.Numeric.uint64?, ofJson]
  by_cases hfits : n < 0x8000000000000000
  · rw [if_pos hfits, if_pos hfits]
  · rw [if_neg hfits, if_neg hfits, if_pos (by omega)]

theorem Timestamp.ofChars?_count :
    ofChars? (Json.Numeric.whole n range).chars =
      (Json.Numeric.whole n range).int64?.map ofEpoch := by
  obtain ⟨hoffset, hdate⟩ := readers_count n
  rw [← Json.Numeric.int64?_chars, Json.Numeric.chars, ofChars?,
    Text.trimChars_of_notBlank notBlank_of_mem_ofInt, hoffset, Time.withoutOffset?,
    Time.dateOnly?, hdate]
  rfl

include range in
theorem Uuid.ofChars?_ofInt : ofChars? (Numeral.ofInt n) = none := by
  have hlength := Numeral.length_ofInt_le (n := n) (by omega)
  rw [ofChars?, if_neg (by omega), if_neg (by omega), if_neg (by omega), ofGroups?,
    if_neg (by omega)]

end

namespace Coercion

variable {kind : Kind} {n : Int}

theorem toNat_word (range : -0x8000000000000000 ≤ n ∧ n < 0x10000000000000000) :
    (UInt64.ofNat n.toNat).toNat = n.toNat :=
  UInt64.toNat_ofNat_of_lt' (by rw [UInt64.size]; omega)

theorem bool?_ofInt (hone : n ≠ 1) (hzero : n ≠ 0) : bool? (Numeral.ofInt n) = none := by
  have hread := Numeral.signed?_ofInt n
  rw [bool?.eq_def]
  split
  next heq =>
    rw [heq] at hread
    cases hread
  next heq =>
    rw [heq] at hread
    cases hread
    exact absurd rfl hone
  next heq =>
    rw [heq] at hread
    cases hread
  next heq =>
    rw [heq] at hread
    cases hread
    exact absurd rfl hzero
  next => rfl

variable (range : -0x8000000000000000 ≤ n ∧ n < 0x10000000000000000)

theorem map_bool?_ofInt :
    (bool? (Numeral.ofInt n)).map Operand.bool = ofNumeric? .bool (.whole n range) := by
  by_cases hone : n = 1
  · subst hone
    rfl
  · by_cases hzero : n = 0
    · subst hzero
      rfl
    · rw [bool?_ofInt hone hzero, ofNumeric?, Json.Numeric.uint64?]
      by_cases hpos : 0 ≤ n
      · have hvalue := toNat_word range
        rw [if_pos hpos]
        split
        next heq =>
          rw [Option.some.inj heq] at hvalue
          have hvalue : 1 = n.toNat := hvalue
          omega
        next heq =>
          rw [Option.some.inj heq] at hvalue
          have hvalue : 0 = n.toNat := hvalue
          omega
        next => rfl
      · rw [if_neg hpos]
        rfl

/-- A numeral that names no variant stands for a position. -/
theorem ofText?_enumeration {variants : List String}
    (hname : String.ofList (Numeral.ofInt n) ∉ variants) :
    ofText? (.enumeration variants) (String.ofList (Numeral.ofInt n)) =
      ofNumeric? (.enumeration variants) (.whole n range) := by
  have htrim : Text.trimChars (Numeral.ofInt n) = Numeral.ofInt n :=
    Text.trimChars_of_notBlank Timestamp.notBlank_of_mem_ofInt
  have hindex : variantIndex? variants (String.ofList (Numeral.ofInt n)) = none := by
    rw [variantIndex?, List.findIdx?_eq_none_iff]
    intro variant hvariant
    rw [Bool.eq_false_iff]
    intro hsame
    rw [Text.trim, String.toList_ofList, htrim] at hsame
    have heq := Text.eq_of_sameName hsame (by simpa using Numeral.isAlpha_of_mem_ofInt)
    exact hname (heq ▸ hvariant)
  simp only [ofText?, hindex, String.toList_ofList, htrim, Numeral.unsignedWithin?_ofInt,
    ofNumeric?, Json.Numeric.uint64?]
  by_cases hpos : 0 ≤ n
  · rw [if_pos hpos, Option.bind_some, toNat_word range]
    by_cases hsmall : n.toNat < 2 ^ 32
    · rw [if_pos ⟨hpos, hsmall⟩, Option.bind_some]
    · rw [if_neg (fun h => hsmall h.2), enumeration?, if_neg (fun h => hsmall h.1)]
      rfl
  · rw [if_neg (fun h => hpos h.1), if_neg hpos]
    rfl

/-- **The numeral of a whole number is read as the number is**, unless it names a variant. -/
theorem ofText?_numeral (hname : String.ofList (Numeral.ofInt n) ∉ kind.variants) :
    ofText? kind (String.ofList (Numeral.ofInt n)) = ofNumeric? kind (.whole n range) := by
  have htrim : Text.trimChars (Numeral.ofInt n) = Numeral.ofInt n :=
    Text.trimChars_of_notBlank Timestamp.notBlank_of_mem_ofInt
  cases kind with
  | text => rfl
  | number =>
      rw [ofText?, String.toList_ofList, htrim, ofNumeric?]
      exact congrArg (Option.map Operand.number) (Number.ofChars?_chars range)
  | timestamp =>
      rw [ofText?, String.toList_ofList, htrim, ofNumeric?]
      refine (congrArg (Option.map Operand.timestamp) (Timestamp.ofChars?_count range)).trans ?_
      rw [Option.map_map]
      rfl
  | uuid =>
      have hsome : (Numeral.ofInt n).isEmpty = false := by
        rw [Numeral.ofInt]
        split <;> simp [Numeral.ofNat_ne_nil]
      simp only [ofText?, String.toList_ofList, htrim, hsome, Uuid.ofChars?_ofInt range]
      rfl
  | enumeration variants => exact ofText?_enumeration range hname
  | bool =>
      have hlower := Text.map_toLower_eq_self (Numeral.isAlpha_of_mem_ofInt (n := n))
      rw [ofText?, String.toList_ofList, htrim, hlower, map_bool?_ofInt range]
  | object => rfl

end Coercion

/-- **Quoting a whole number does not change its operand.** For every field, a number of 64 bits and
the text of its numeral are coerced to the same operand, or neither is, unless the numeral is the name
of a variant. -/
theorem Field.coerce_quoted (f : Field) {n : Int}
    (range : -0x8000000000000000 ≤ n ∧ n < 0x10000000000000000)
    (hname : String.ofList (Numeral.ofInt n) ∉ f.kind.variants) :
    (coerce f.kind f.nullable (.text (String.ofList (Numeral.ofInt n)))).toOption =
      (coerce f.kind f.nullable (.number (.whole n range))).toOption := by
  rw [coerce, coerce, Coercion.operand?, Coercion.operand?, Coercion.ofText?_numeral range hname]
  cases Coercion.ofNumeric? f.kind (.whole n range) <;> rfl

/-- A variant that is named like a number is found by its name. -/
example : (coerce (.enumeration ["1", "0"]) false (.text "1")).toOption = some (.enumeration 0) ∧
    (coerce (.enumeration ["1", "0"]) false (.number (.whole 1 (by decide)))).toOption =
      some (.enumeration 1) :=
  ⟨rfl, rfl⟩

namespace Issue

def state : Field where
  name := "state"
  kind := .enumeration ["open", "closed"]

/-- The greatest number of 64 bits is no position, quoted or not, and 1 is one. -/
theorem quoted_states :
    (coerce state.kind state.nullable (.text "18446744073709551615")).toOption = none ∧
      "1" ∉ state.kind.variants ∧
      (coerce state.kind state.nullable (.text "1")).toOption = some (.enumeration 1) :=
  ⟨(state.coerce_quoted (n := 18446744073709551615) (by decide) (by decide)).trans rfl,
    by decide, (state.coerce_quoted (n := 1) (by decide) (by decide)).trans rfl⟩

end Issue

end RecordQuery
