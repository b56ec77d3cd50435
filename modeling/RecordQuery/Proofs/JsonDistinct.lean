import RecordQuery.Proofs.DelimitedText
import RecordQuery.Proofs.JsonText

/-!
# Different JSON values have different texts

The first character of a JSON text tells the type of the value, and the text tells where it ends. So
writing is injective.
-/

namespace RecordQuery

open Text (Word Breaks)

namespace Numeral

theorem isPart_withExponent (d : Decimal) : ∀ c ∈ withExponent d, IsPart c := by
  have hdigits : ∀ c ∈ ofNat d.digits, IsPart c := isPart_ofNat
  have hpower : ∀ c ∈ (if pointPosition d - 1 < 0 then ofInt (pointPosition d - 1)
      else '+' :: ofInt (pointPosition d - 1)), IsPart c := by
    split
    · exact isPart_ofInt
    · exact List.forall_mem_cons.mpr ⟨Or.inr (by decide), isPart_ofInt⟩
  refine List.forall_mem_append.mpr
    ⟨?_, List.forall_mem_cons.mpr ⟨Or.inr (by decide), hpower⟩⟩
  split
  next first second rest hsplit =>
    rw [hsplit] at hdigits
    obtain ⟨hfirst, hrest⟩ := List.forall_mem_cons.mp hdigits
    exact List.forall_mem_cons.mpr ⟨hfirst, List.forall_mem_cons.mpr ⟨Or.inr (by decide), hrest⟩⟩
  next => exact hdigits

theorem isPart_scientific (x : Binary64.Magnitude) : ∀ c ∈ scientific x, IsPart c := by
  have hzero : ∀ c ∈ ['.', '0'], IsPart c := by simp [IsPart]
  rw [scientific]
  generalize x.shortest = d
  split
  · exact List.forall_mem_cons.mpr ⟨Or.inl rfl, hzero⟩
  · split
    · exact isPart_withExponent d
    · split
      · exact List.forall_mem_append.mpr ⟨isPart_positional, hzero⟩
      · exact isPart_positional

end Numeral

namespace Json

variable {r s : List Char}

/-! ### Numbers -/

namespace Numeric

open Numeral

theorem head (n : Numeric) : ∃ c cs, n.chars = c :: cs ∧ (c.isDigit ∨ c = '-') := by
  have hsigned : ∀ (negative : Bool) {body : List Char} {v : ℚ}, Spells body v →
      ∃ c cs, withSign negative body = c :: cs ∧ (c.isDigit ∨ c = '-') := by
    intro negative body v hspells
    obtain ⟨c, rest, rfl, hdigit⟩ := hspells.head
    cases negative with
    | true => exact ⟨'-', c :: rest, rfl, Or.inr rfl⟩
    | false => exact ⟨c, rest, rfl, Or.inl hdigit⟩
  cases n with
  | whole n _ =>
      rw [chars, ofInt_eq_withSign]
      exact hsigned _ (spells_ofNat _)
  | real negative x _ => exact hsigned negative (spells_scientific x)

theorem word_chars (n : Numeric) : Word n.chars := by
  obtain ⟨c, cs, hchars, -⟩ := n.head
  refine ⟨by simp [hchars], ?_⟩
  suffices h : ∀ c ∈ n.chars, IsPart c from fun c hc => (h c hc).not_break
  cases n with
  | whole n _ => exact isPart_ofInt
  | real negative x _ =>
      rw [chars]
      split
      · exact List.forall_mem_cons.mpr ⟨Or.inr (by decide), isPart_scientific x⟩
      · exact isPart_scientific x

end Numeric

/-! ### Types -/

/-- The type that the first character of a text tells. -/
def typeOf (c : Char) : String :=
  if c = 'n' then "null"
  else if c = 't' ∨ c = 'f' then "bool"
  else if c = '\x22' then "string"
  else if c = '[' then "array"
  else if c = '\x7b' then "object"
  else "number"

theorem typeOf_number {c : Char} (h : c.isDigit ∨ c = '-') : typeOf c = "number" ∧ c ≠ ']' := by
  have hne : ∀ d : Char, d.isDigit = false → d ≠ '-' → c ≠ d := by
    rintro d hdigit hminus rfl
    rcases h with h | h
    · rw [h] at hdigit
      cases hdigit
    · exact hminus h
  refine ⟨?_, hne ']' rfl (by decide)⟩
  rw [typeOf, if_neg (hne _ rfl (by decide)),
    if_neg (not_or.mpr ⟨hne _ rfl (by decide), hne _ rfl (by decide)⟩),
    if_neg (hne _ rfl (by decide)), if_neg (hne _ rfl (by decide)), if_neg (hne _ rfl (by decide))]

/-- **The first character tells the type of a value.** -/
theorem head_write (value : Json) :
    ∃ c cs, value.write = c :: cs ∧ typeOf c = value.typeName ∧ c ≠ ']' := by
  cases value with
  | null => exact ⟨_, _, rfl, by simp [typeOf, typeName], by decide⟩
  | bool b =>
      cases b with
      | true => exact ⟨_, _, rfl, by simp [typeOf, typeName], by decide⟩
      | false => exact ⟨_, _, rfl, by simp [typeOf, typeName], by decide⟩
  | number n =>
      obtain ⟨c, cs, hchars, hc⟩ := n.head
      exact ⟨c, cs, hchars, typeOf_number hc⟩
  | text t => exact ⟨_, _, rfl, by simp [typeOf, typeName], by decide⟩
  | array items => exact ⟨_, _, rfl, by simp [typeOf, typeName], by decide⟩
  | object members => exact ⟨_, _, rfl, by simp [typeOf, typeName], by decide⟩

theorem typeName_unique {a b : Json} (h : a.write ++ r = b.write ++ s) :
    a.typeName = b.typeName := by
  obtain ⟨c, cs, hchars, htype, -⟩ := a.head_write
  obtain ⟨d, ds, hchars', htype', -⟩ := b.head_write
  rw [hchars, hchars'] at h
  rw [← htype, ← htype', (List.cons.inj h).1]

theorem writeText_unique {a b : String} (h : writeText a ++ r = writeText b ++ s) :
    a = b ∧ r = s := by
  rw [writeText_append, writeText_append] at h
  have hread := congrArg readText (List.cons.inj h).2
  rw [readText_escaped, readText_escaped] at hread
  cases hread
  exact ⟨rfl, rfl⟩

/-! ### Lists -/

def writeMember (member : String × Json) : List Char :=
  writeText member.1 ++ ':' :: member.2.write

theorem writeItems_eq (items : List Json) :
    writeItems items = List.intercalate [','] (items.map write) :=
  Text.eq_intercalate rfl (fun _ => by rw [writeItems]) (fun _ _ _ => by simp [writeItems]) items

theorem writeMembers_eq (members : List (String × Json)) :
    writeMembers members = List.intercalate [','] (members.map writeMember) :=
  Text.eq_intercalate rfl (fun _ => by simp [writeMembers, writeMember])
    (fun _ _ _ => by simp [writeMembers, writeMember]) members

/-! ### Values -/

/-- **A JSON text tells where it ends and which value it is.** -/
theorem write_unique (a b : Json) {r s : List Char} (hr : Breaks r) (hs : Breaks s)
    (h : a.write ++ r = b.write ++ s) : a = b ∧ r = s := by
  have htype := typeName_unique h
  match a with
  | .null =>
      cases b with
      | null => exact ⟨rfl, List.append_cancel_left h⟩
      | _ => simp [typeName] at htype
  | .bool t =>
      cases b with
      | bool u =>
          cases t <;> cases u <;> simp [write] at h ⊢ <;> exact h
      | _ => simp [typeName] at htype
  | .number m =>
      cases b with
      | number n =>
          obtain ⟨hchars, hend⟩ := m.word_chars.unique n.word_chars hr hs h
          cases Numeric.chars_injective hchars
          exact ⟨rfl, hend⟩
      | _ => simp [typeName] at htype
  | .text t =>
      cases b with
      | text u =>
          obtain ⟨rfl, hend⟩ := writeText_unique h
          exact ⟨rfl, hend⟩
      | _ => simp [typeName] at htype
  | .array items =>
      cases b with
      | array items' =>
          have hbracket : ∀ (item : Json) (x y : List Char), item.write ++ x ≠ ']' :: y := by
            intro item x y heq
            obtain ⟨c, cs, hchars, -, hc⟩ := item.head_write
            rw [hchars] at heq
            exact hc (List.cons.inj heq).1
          simp only [write, writeItems_eq, List.cons_append, List.append_assoc, List.nil_append,
            List.cons.injEq, true_and] at h
          obtain ⟨hitems, hend⟩ := Text.bracketed_unique Breaks
            (fun item hitem item' _ x y hx hy => write_unique item item' hx hy)
            (fun _ => Text.breaks_cons.mpr rfl) (fun _ => Text.breaks_cons.mpr rfl) (by simp)
            (fun item _ => hbracket item) (fun item _ => hbracket item) h
          rw [List.forall₂_eq_eq_eq] at hitems
          exact ⟨congrArg array hitems, hend⟩
      | _ => simp [typeName] at htype
  | .object members =>
      cases b with
      | object members' =>
          have hquote : ∀ (member : String × Json) (x y : List Char),
              writeMember member ++ x ≠ '\x7d' :: y := by
            simp [writeMember, writeText]
          have hmember : ∀ member ∈ members, ∀ member' ∈ members', ∀ x y, Breaks x → Breaks y →
              writeMember member ++ x = writeMember member' ++ y → member = member' ∧ x = y := by
            rintro ⟨key, value⟩ hmem ⟨key', value'⟩ - x y hx hy heq
            simp only [writeMember, List.append_assoc, List.cons_append] at heq
            obtain ⟨rfl, hvalues⟩ := writeText_unique heq
            obtain ⟨rfl, hrest⟩ := write_unique value value' hx hy (List.cons.inj hvalues).2
            exact ⟨rfl, hrest⟩
          simp only [write, writeMembers_eq, List.cons_append, List.append_assoc, List.nil_append,
            List.cons.injEq, true_and] at h
          obtain ⟨hmembers, hend⟩ := Text.bracketed_unique Breaks hmember
            (fun _ => Text.breaks_cons.mpr rfl) (fun _ => Text.breaks_cons.mpr rfl) (by simp)
            (fun member _ => hquote member) (fun member _ => hquote member) h
          rw [List.forall₂_eq_eq_eq] at hmembers
          exact ⟨congrArg object hmembers, hend⟩
      | _ => simp [typeName] at htype
termination_by sizeOf a
decreasing_by
  · decreasing_tactic
  · have hsize := List.sizeOf_lt_of_mem ‹(key, value) ∈ members›
    simp only [Prod.mk.sizeOf_spec, object.sizeOf_spec] at hsize ⊢
    omega

end Json

end RecordQuery
