import RecordQuery.Proofs.Base64
import RecordQuery.Uuid

/-!
# Identifiers as text

Reading an identifier undoes writing it: the hyphens are where the groups end, and the hexadecimal
digits spell the number.
-/

namespace RecordQuery

namespace Text

theorem hexFrom?_append (value : Nat) (xs ys : List Char) :
    hexFrom? value (xs ++ ys) = (hexFrom? value xs).bind fun read => hexFrom? read ys := by
  induction xs generalizing value with
  | nil => rfl
  | cons x xs ih =>
      rw [List.cons_append, hexFrom?, hexFrom?]
      cases hexValue? x with
      | none => rfl
      | some digit => exact ih _

/-- The digits of the last `count` places, the leading one first, spell the number. -/
theorem hexFrom?_places (count value : Nat) :
    hexFrom? 0 ((List.range count).map fun i => hexDigit (value / 16 ^ (count - 1 - i) % 16)) =
      some (value % 16 ^ count) := by
  induction count generalizing value with
  | zero => simp [hexFrom?, Nat.mod_one]
  | succ count ih =>
      have hshift : ((List.range count).map fun i =>
          hexDigit (value / 16 ^ (count + 1 - 1 - i) % 16)) =
            (List.range count).map fun i => hexDigit (value / 16 / 16 ^ (count - 1 - i) % 16) := by
        refine List.map_congr_left fun i hi => ?_
        have hlt := List.mem_range.mp hi
        have hplace : count + 1 - 1 - i = (count - 1 - i).succ := by omega
        rw [Nat.div_div_eq_div_mul, ← Nat.pow_succ', hplace]
      have hlast := hexValue?_hexDigit (value % 16) (Nat.mod_lt _ (by decide))
      rw [List.range_succ, List.map_append, hexFrom?_append, hshift, ih]
      simp only [List.map_cons, List.map_nil, Nat.add_sub_cancel, Nat.sub_self, Nat.pow_zero,
        Nat.div_one, Option.bind_some, hexFrom?, hlast]
      rw [Nat.pow_succ', Nat.mod_mul]
      congr 1
      omega

theorem isBlankChar_hexDigit : ∀ n < 16, isBlankChar (hexDigit n) = false := by
  decide

end Text

namespace Uuid

theorem ofDigits?_digits (u : Uuid) : ofDigits? u.digits = some u := by
  have hread := Text.hexFrom?_places 32 u.value.toNat
  rw [ofDigits?, if_pos (by rw [digits, List.length_map, List.length_range])]
  change (Text.hexFrom? 0 u.digits).map _ = _
  have hdigits : u.digits = (List.range 32).map fun i =>
      Text.hexDigit (u.value.toNat / 16 ^ (32 - 1 - i) % 16) := rfl
  have hvalue : u.value.toNat % 16 ^ 32 = u.value.toNat := by
    refine Nat.mod_eq_of_lt (Nat.lt_of_lt_of_eq u.value.isLt ?_)
    decide
  rw [hdigits, hread, Option.map_some, hvalue, BitVec.ofNat_toNat]
  simp

theorem ofGroups?_chars (u : Uuid) : ofGroups? u.chars = ofDigits? u.digits := by
  rw [ofGroups?, if_pos ⟨rfl, rfl, rfl, rfl, rfl⟩]
  rfl

/-- **Reading an identifier undoes writing it.** -/
theorem ofChars?_chars (u : Uuid) : ofChars? u.chars = some u := by
  have hlength : u.chars.length = 36 := rfl
  rw [ofChars?, hlength, if_neg (by decide), if_neg fun h => absurd h.1 (by decide),
    if_neg fun h => absurd h.1 (by decide), ofGroups?_chars, ofDigits?_digits]

theorem notBlank_of_mem_digits {u : Uuid} {c : Char} (h : c ∈ u.digits) :
    Text.isBlankChar c = false := by
  obtain ⟨i, -, rfl⟩ := List.mem_map.mp h
  exact Text.isBlankChar_hexDigit _ (Nat.mod_lt _ (by decide))

theorem mem_chars {u : Uuid} {c : Char} (h : c ∈ u.chars) : c ∈ u.digits ∨ c = '-' := by
  simp only [chars, List.mem_append, List.mem_cons] at h
  rcases h with (((h | h | h) | h | h) | h | h) | h | h
  · exact Or.inl (List.mem_of_mem_take h)
  · exact Or.inr h
  · exact Or.inl (List.mem_of_mem_drop (List.mem_of_mem_take h))
  · exact Or.inr h
  · exact Or.inl (List.mem_of_mem_drop (List.mem_of_mem_take h))
  · exact Or.inr h
  · exact Or.inl (List.mem_of_mem_drop (List.mem_of_mem_take h))
  · exact Or.inr h
  · exact Or.inl (List.mem_of_mem_drop h)

theorem notBlank_of_mem_chars {u : Uuid} {c : Char} (h : c ∈ u.chars) :
    Text.isBlankChar c = false := by
  rcases mem_chars h with h | rfl
  · exact notBlank_of_mem_digits h
  · decide

end Uuid

end RecordQuery
