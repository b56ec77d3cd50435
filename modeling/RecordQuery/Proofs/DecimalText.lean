import RecordQuery.Proofs.Numerals
import RecordQuery.Proofs.ShortestDecimals

/-!
# Decimals as text

A written decimal has digits before the point, digits after it where there is a point, and an
exponent in scientific notation. Reading it gives the value that was written. So the text of a
number determines its sign and its value, and the text of a JSON number the number itself.
-/

namespace RecordQuery

namespace Numeral

/-- A text without a sign that is read as the value. -/
structure Spells (cs : List Char) (v : ℚ) : Prop where
  head : ∃ c rest, cs = c :: rest ∧ c.isDigit
  value : ∃ digits exponent, decimal? cs = some (digits, exponent) ∧
    (digits : ℚ) * 10 ^ exponent = v

theorem Spells.unique {cs : List Char} {v w : ℚ} (h : Spells cs v) (h' : Spells cs w) : v = w := by
  obtain ⟨digits, exponent, hread, rfl⟩ := h.value
  obtain ⟨digits', exponent', hread', rfl⟩ := h'.value
  rw [hread] at hread'
  cases hread'
  rfl

/-- The digits after the point, with the point unless there are none. -/
def point : List Char → List Char
  | [] => []
  | c :: cs => '.' :: c :: cs

/-- Nothing, or an exponent in scientific notation. -/
inductive Tail : List Char → Int → Prop
  | none : Tail [] 0
  | power {cs : List Char} {power : Int} (h : signed? cs = some power) : Tail ('e' :: cs) power

theorem Tail.head {tail : List Char} {power : Int} (h : Tail tail power) :
    ∀ c ∈ tail.head?, c.isDigit = false ∧ c ≠ '.' := by
  cases h with
  | none => simp
  | power => simp

/-- **A written decimal is read back as its digits and its power of ten.** -/
theorem decimal?_parts {ds fs tail : List Char} {power : Int} (hne : ds ≠ [])
    (hds : ∀ c ∈ ds, c.isDigit) (hfs : ∀ c ∈ fs, c.isDigit) (htail : Tail tail power) :
    decimal? (ds ++ (point fs ++ tail)) =
      some (Nat.ofDigitChars 10 (ds ++ fs) 0, power - fs.length) := by
  have hdigits : natural? (ds ++ fs) = some (Nat.ofDigitChars 10 (ds ++ fs) 0) := by
    rw [natural?, if_neg (by simp [hne]), digitsFrom_eq]
    exact List.forall_mem_append.mpr ⟨hds, hfs⟩
  have hwhole : (ds ++ (point fs ++ tail)).span Char.isDigit = (ds, point fs ++ tail) := by
    refine span_digits hds fun c hc => ?_
    cases fs with
    | nil => exact (htail.head c hc).1
    | cons d fs =>
        obtain rfl : '.' = c := by simpa [point] using hc
        rfl
  have hfraction : (fs ++ tail).span Char.isDigit = (fs, tail) :=
    span_digits hfs fun c hc => (htail.head c hc).1
  rw [decimal?, hwhole]
  cases fs with
  | nil =>
      rw [List.append_nil] at hdigits ⊢
      cases htail with
      | none => simp [point, hdigits]
      | power hpower => simp [point, hdigits, hpower]
  | cons d fs =>
      rw [List.cons_append] at hfraction
      simp only [point, List.cons_append, hfraction, hdigits]
      cases htail with
      | none => simp
      | power hpower => simp [hpower, sub_eq_add_neg]

theorem spells_parts (ds fs : List Char) {tail : List Char} {power : Int} (hne : ds ≠ [])
    (hds : ∀ c ∈ ds, c.isDigit) (hfs : ∀ c ∈ fs, c.isDigit) (htail : Tail tail power) :
    Spells (ds ++ (point fs ++ tail))
      (Nat.ofDigitChars 10 (ds ++ fs) 0 * 10 ^ (power - fs.length)) := by
  obtain ⟨c, cs, rfl⟩ := List.exists_cons_of_ne_nil hne
  exact ⟨⟨c, _, rfl, hds c (by simp)⟩, _, _, decimal?_parts hne hds hfs htail, rfl⟩

/-! ### Positional notation -/

theorem ofDigitChars_ofNat (n : Nat) : Nat.ofDigitChars 10 (ofNat n) 0 = n :=
  Nat.ofDigitChars_toDigits (by decide) (by decide)

theorem isDigit_of_mem_zeros {n : Nat} {c : Char} (h : c ∈ List.replicate n '0') : c.isDigit := by
  rw [List.eq_of_mem_replicate h]
  rfl

theorem spells_ofNat (n : Nat) : Spells (ofNat n) n := by
  have hspells := spells_parts (ofNat n) [] (ofNat_ne_nil n) (fun _ => isDigit_of_mem_ofNat)
    (by simp) .none
  simpa [point, ofDigitChars_ofNat] using hspells

/-- The digits of a whole number, with the zeros that its power of ten adds. -/
theorem ofDigitChars_shifted (n e : Nat) :
    (Nat.ofDigitChars 10 (ofNat n ++ List.replicate e '0') 0 : ℚ) = n * 10 ^ e := by
  rw [Nat.ofDigitChars_append, ofDigitChars_ofNat, Nat.ofDigitChars_replicate_zero]
  push_cast
  ring

/-- Digits with a point before the last ones. -/
theorem spells_fraction (ds fs : List Char) {n e : Nat} (hne : ds ≠ [])
    (hds : ∀ c ∈ ds, c.isDigit) (hfs : ∀ c ∈ fs, c.isDigit)
    (hvalue : Nat.ofDigitChars 10 (ds ++ fs) 0 = n) (hlength : fs.length = e + 1) :
    Spells (ds ++ '.' :: fs) (n * 10 ^ Int.negSucc e) := by
  have hspells := spells_parts ds fs hne hds hfs .none
  have hpower : (0 : Int) - (e + 1 : Nat) = Int.negSucc e := by
    rw [Int.negSucc_eq]
    push_cast
    ring
  rw [hvalue, hlength, hpower, List.append_nil] at hspells
  obtain ⟨c, cs, rfl⟩ := List.exists_cons_of_length_eq_add_one hlength
  exact hspells

theorem spells_positional (d : Decimal) : Spells (positional d) d.value := by
  obtain ⟨digits, exponent⟩ := d
  have hdigits : ∀ c ∈ ofNat digits, c.isDigit := fun _ => isDigit_of_mem_ofNat
  cases exponent with
  | ofNat e =>
      by_cases hzero : digits = 0
      · subst hzero
        have hspells : Spells ['0'] (0 : Nat) := spells_ofNat 0
        simpa [positional, Decimal.value] using hspells
      · have hspells := spells_parts (ofNat digits ++ List.replicate e '0') []
          (by simp [ofNat_ne_nil])
          (List.forall_mem_append.mpr ⟨hdigits, fun _ => isDigit_of_mem_zeros⟩) (by simp) .none
        simp only [List.append_nil, ofDigitChars_shifted] at hspells
        simpa [positional, hzero, point, Decimal.value] using hspells
  | negSucc e =>
      rw [positional]
      dsimp only
      by_cases hlong : e + 1 < (ofNat digits).length
      · rw [if_pos hlong]
        generalize hsplit : (ofNat digits).length - (e + 1) = whole
        refine spells_fraction _ _ ?_ (fun c hc => hdigits c (List.mem_of_mem_take hc))
          (fun c hc => hdigits c (List.mem_of_mem_drop hc)) ?_ ?_
        · rw [Ne, List.take_eq_nil_iff, not_or]
          exact ⟨by omega, ofNat_ne_nil digits⟩
        · rw [List.take_append_drop, ofDigitChars_ofNat]
        · rw [List.length_drop]
          omega
      · rw [if_neg hlong]
        generalize hzeros : e + 1 - (ofNat digits).length = zeros
        refine spells_fraction ['0'] (List.replicate zeros '0' ++ ofNat digits)
          (by simp) (by simp)
          (List.forall_mem_append.mpr ⟨fun _ => isDigit_of_mem_zeros, hdigits⟩) ?_ ?_
        · change Nat.ofDigitChars 10 (List.replicate (zeros + 1) '0' ++ ofNat digits) 0 = digits
          rw [Nat.ofDigitChars_append, Nat.ofDigitChars_replicate_zero, Nat.mul_zero,
            ofDigitChars_ofNat]
        · rw [List.length_append, List.length_replicate]
          omega

/-! ### Scientific notation -/

theorem tail_power (power : Int) :
    Tail ('e' :: (if power < 0 then ofInt power else '+' :: ofInt power)) power := by
  refine .power ?_
  split
  · exact signed?_ofInt power
  · have hsign : ofInt power = ofNat power.natAbs := by rw [ofInt, if_neg ‹_›]
    rw [signed?, unsigned?, hsign, natural?_ofNat]
    · change some (power.natAbs : Int) = some power
      congr 1
      omega
    · rintro rest ⟨⟩

theorem spells_withExponent (d : Decimal) : Spells (withExponent d) d.value := by
  have hdigits : ∀ c ∈ ofNat d.digits, c.isDigit := fun _ => isDigit_of_mem_ofNat
  have htail := tail_power (pointPosition d - 1)
  obtain ⟨first, rest, hfirst⟩ := List.exists_cons_of_ne_nil (ofNat_ne_nil d.digits)
  have hspells := spells_parts [first] rest (by simp)
    (by simpa using hdigits first (by simp [hfirst]))
    (fun c hc => hdigits c (by simp [hfirst, hc])) htail
  have hpower : pointPosition d - 1 - (rest.length : Int) = d.exponent := by
    rw [pointPosition, hfirst, List.length_cons]
    push_cast
    ring
  have hjoined : [first] ++ rest = ofNat d.digits := hfirst.symm
  rw [hjoined, ofDigitChars_ofNat, hpower] at hspells
  rw [withExponent, hfirst]
  cases rest with
  | nil => exact hspells
  | cons second rest => exact hspells

/-- Whole numbers are written with the fraction `.0`. -/
theorem spells_whole {n : Nat} (hn : n ≠ 0) (e : Nat) :
    Spells (positional ⟨n, e⟩ ++ ['.', '0']) (Decimal.value ⟨n, e⟩) := by
  have hzeros : ofNat n ++ List.replicate e '0' ++ ['0'] =
      ofNat n ++ List.replicate (e + 1) '0' := by
    rw [List.append_assoc, ← List.replicate_succ']
  have hspells := spells_fraction (ofNat n ++ List.replicate e '0') ['0'] (e := 0)
    (by simp [ofNat_ne_nil])
    (List.forall_mem_append.mpr ⟨fun _ => isDigit_of_mem_ofNat, fun _ => isDigit_of_mem_zeros⟩)
    (by simp) rfl rfl
  have hvalue : (n : ℚ) * 10 ^ (e + 1) * 10 ^ Int.negSucc 0 = n * 10 ^ (e : Int) := by
    rw [Int.negSucc_eq, zpow_natCast, pow_succ]
    norm_num
    ring
  rw [hzeros, ofDigitChars_shifted, hvalue] at hspells
  have hpositional : positional ⟨n, e⟩ = ofNat n ++ List.replicate e '0' := by
    change (if n = 0 then ['0'] else _) = _
    rw [if_neg hn]
  rw [hpositional]
  exact hspells

theorem spells_scientific (x : Binary64.Magnitude) :
    Spells (scientific x) x.shortest.value := by
  rw [scientific]
  generalize x.shortest = d
  split
  next hzero =>
    have hspells := spells_fraction ['0'] ['0'] (n := 0) (e := 0) (by simp) (by simp)
      (by simp) rfl rfl
    simpa [Decimal.value, hzero] using hspells
  next hzero =>
    split
    · exact spells_withExponent d
    · split
      next hwhole =>
        obtain ⟨digits, exponent⟩ := d
        obtain ⟨e, rfl⟩ := Int.eq_ofNat_of_zero_le hwhole
        exact spells_whole hzero e
      · exact spells_positional d

/-- A decimal in scientific notation has a point or an exponent. -/
theorem exists_mark_scientific (x : Binary64.Magnitude) :
    ∃ c ∈ scientific x, c = '.' ∨ c = 'e' := by
  rw [scientific]
  generalize x.shortest = d
  split
  · exact ⟨'.', by simp, Or.inl rfl⟩
  · split
    · exact ⟨'e', by simp [withExponent], Or.inr rfl⟩
    · split
      · exact ⟨'.', by simp, Or.inl rfl⟩
      next hfraction =>
        obtain ⟨digits, exponent⟩ := d
        cases exponent with
        | ofNat e => exact absurd (Int.natCast_nonneg e) hfraction
        | negSucc e =>
            refine ⟨'.', ?_, Or.inl rfl⟩
            rw [positional]
            dsimp only
            split <;> simp

/-! ### Signs -/

def withSign (negative : Bool) (body : List Char) : List Char :=
  if negative then '-' :: body else body

/-- A sign and digits can be told apart. -/
theorem withSign_unique {s t : Bool} {xs ys : List Char} {v w : ℚ} (hx : Spells xs v)
    (hy : Spells ys w) (h : withSign s xs = withSign t ys) : s = t ∧ v = w := by
  obtain ⟨c, cs, hc, hdigit⟩ := hx.head
  obtain ⟨d, ds, hd, hdigit'⟩ := hy.head
  have hminus : c ≠ '-' := ne_of_isDigit hdigit rfl
  have hminus' : d ≠ '-' := ne_of_isDigit hdigit' rfl
  have hbody : s = t ∧ xs = ys := by
    rw [hc, hd] at h ⊢
    cases s <;> cases t <;> simp [withSign, hminus, hminus'.symm] at h ⊢ <;> exact h
  obtain ⟨rfl, rfl⟩ := hbody
  exact ⟨rfl, hx.unique hy⟩

theorem ofInt_eq_withSign (n : Int) : ofInt n = withSign (n < 0) (ofNat n.natAbs) := by
  simp [ofInt, withSign]

end Numeral

namespace Json.Numeric

open Numeral

theorem chars_whole_ne_real {n : Int} {range : -0x8000000000000000 ≤ n ∧ n < 0x10000000000000000}
    {s : Bool} {x : Binary64.Magnitude} {finite : x ≠ Binary64.Magnitude.infinity} :
    (whole n range).chars ≠ (real s x finite).chars := by
  obtain ⟨c, hc, hmark⟩ := exists_mark_scientific x
  intro heq
  have hmem : c ∈ (real s x finite).chars := by
    rw [chars]
    split
    · exact List.mem_cons_of_mem _ hc
    · exact hc
  have hwhole : c = '-' ∨ c.isDigit := by
    rw [← heq] at hmem
    change c ∈ Numeral.ofInt n at hmem
    rw [Numeral.ofInt] at hmem
    split at hmem
    · exact (List.mem_cons.mp hmem).imp_right isDigit_of_mem_ofNat
    · exact Or.inr (isDigit_of_mem_ofNat hmem)
  rcases hmark with rfl | rfl <;> simp at hwhole

/-- **A JSON number is determined by its text.** -/
theorem chars_injective : Function.Injective chars := by
  intro a b h
  cases a with
  | whole n range =>
      cases b with
      | whole m _ =>
          have hread := congrArg signed? h
          rw [chars, chars, signed?_ofInt, signed?_ofInt] at hread
          cases hread
          rfl
      | real s y _ => exact absurd h chars_whole_ne_real
  | real s x hx =>
      cases b with
      | whole m _ => exact absurd h.symm chars_whole_ne_real
      | real t y hy =>
          obtain ⟨rfl, hvalue⟩ := withSign_unique (spells_scientific x) (spells_scientific y) h
          cases Binary64.Magnitude.eq_of_shortest hx hy hvalue
          rfl

end Json.Numeric

/-! ### Numbers of records and requests -/

namespace Number

open Numeral

/-- The sign and the absolute value that the text of a finite number spells. -/
inductive Spelled : Number → Bool → ℚ → Prop
  | signed (n : Int64) : Spelled (.signed n) (n.toInt < 0) n.toInt.natAbs
  | unsigned (n : UInt64) : Spelled (.unsigned n) false n.toNat
  | real (negative : Bool) {x : Binary64.Magnitude} (hx : x ≠ Binary64.Magnitude.infinity) :
      Spelled (.real (.signed negative x)) negative x.shortest.value

theorem Spelled.text {n : Number} {negative : Bool} {v : ℚ} (h : n.Spelled negative v) :
    ∃ body, n.text.toList = withSign negative body ∧ Spells body v := by
  cases h with
  | signed n =>
      refine ⟨ofNat n.toInt.natAbs, ?_, spells_ofNat _⟩
      rw [Number.text, String.toList_ofList, ofInt_eq_withSign]
  | unsigned n =>
      refine ⟨ofNat n.toNat, ?_, spells_ofNat _⟩
      rw [Number.text, String.toList_ofList]
      rfl
  | @real negative x hx =>
      refine ⟨positional x.shortest, ?_, spells_positional _⟩
      rw [Number.text, String.toList_ofList, plain]
      simp only [if_neg hx, withSign]

theorem Spelled.unique {m n : Number} {s t : Bool} {v w : ℚ} (hm : m.Spelled s v)
    (hn : n.Spelled t w) (h : m.text = n.text) : s = t ∧ v = w := by
  obtain ⟨xs, hxs, hv⟩ := hm.text
  obtain ⟨ys, hys, hw⟩ := hn.text
  exact withSign_unique hv hw (hxs.symm.trans ((congrArg String.toList h).trans hys))

end Number

end RecordQuery
