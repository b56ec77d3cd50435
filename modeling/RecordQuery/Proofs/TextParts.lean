import Mathlib
import RecordQuery.Text.Ascii
import RecordQuery.Text.Blank
import RecordQuery.Text.Split

/-!
# Parts of texts

Splitting takes the join of parts apart, as long as no part holds the separator. Trimming leaves a
text without blanks at its ends as it is, and names that differ in the case of letters only hold the
same other characters.
-/

namespace RecordQuery

namespace Text

/-! ### Splitting -/

theorem splitChars_ne_nil (separator : Char) (cs : List Char) : splitChars separator cs ≠ [] := by
  induction cs with
  | nil => simp [splitChars]
  | cons c cs ih =>
      rw [splitChars]
      split
      · simp
      · split <;> simp

theorem splitChars_of_notMem {separator : Char} {cs : List Char} (h : separator ∉ cs) :
    splitChars separator cs = [cs] := by
  induction cs with
  | nil => rfl
  | cons c cs ih =>
      obtain ⟨hc, hcs⟩ : separator ≠ c ∧ separator ∉ cs := by simpa using h
      rw [splitChars, if_neg (Ne.symm hc), ih hcs]

/-- Two texts with a separator between them have the parts of the one and of the other. -/
theorem splitChars_append_cons (separator : Char) (cs rest : List Char) :
    splitChars separator (cs ++ separator :: rest) =
      splitChars separator cs ++ splitChars separator rest := by
  induction cs with
  | nil => simp [splitChars]
  | cons c cs ih =>
      rw [List.cons_append, splitChars, splitChars, ih]
      split
      · rfl
      · cases hparts : splitChars separator cs with
        | nil => exact absurd hparts (splitChars_ne_nil separator cs)
        | cons part parts => rfl

theorem splitChars_append {separator : Char} {cs : List Char} (h : separator ∉ cs)
    (rest : List Char) :
    splitChars separator (cs ++ separator :: rest) = cs :: splitChars separator rest := by
  rw [splitChars_append_cons, splitChars_of_notMem h, List.singleton_append]

theorem of_mem_splitChars {separator : Char} {cs part : List Char}
    (h : part ∈ splitChars separator cs) {c : Char} (hc : c ∈ part) : c ∈ cs ∧ c ≠ separator := by
  induction cs generalizing part with
  | nil =>
      rw [splitChars, List.mem_singleton] at h
      rw [h] at hc
      cases hc
  | cons d cs ih =>
      have htail : ∀ {part}, part ∈ splitChars separator cs → c ∈ part →
          c ∈ d :: cs ∧ c ≠ separator := fun h hc =>
        ⟨List.mem_cons_of_mem d (ih h hc).1, (ih h hc).2⟩
      rw [splitChars] at h
      split at h
      next =>
        rcases List.mem_cons.mp h with rfl | h
        · cases hc
        · exact htail h hc
      next hd =>
        split at h
        next hnil => exact absurd hnil (splitChars_ne_nil separator cs)
        next first parts hparts =>
          rcases List.mem_cons.mp h with rfl | h
          · rcases List.mem_cons.mp hc with rfl | hc
            · exact ⟨by simp, hd⟩
            · exact htail (by simp [hparts]) hc
          · exact htail (by simp [hparts, h]) hc

theorem of_mem_split {separator : Char} {s part : String} (h : part ∈ split separator s) {c : Char}
    (hc : c ∈ part.toList) : c ∈ s.toList ∧ c ≠ separator := by
  obtain ⟨cs, hcs, rfl⟩ := List.mem_map.mp h
  rw [String.toList_ofList] at hc
  exact of_mem_splitChars hcs hc

theorem mem_join {separator : String} {parts : List String} {c : Char}
    (h : c ∈ (join separator parts).toList) :
    c ∈ separator.toList ∨ ∃ part ∈ parts, c ∈ part.toList := by
  induction parts with
  | nil => cases h
  | cons part parts ih =>
      cases parts with
      | nil => exact Or.inr ⟨part, by simp, h⟩
      | cons next parts =>
          rw [join] at h
          · rw [String.toList_append, String.toList_append, List.mem_append, List.mem_append] at h
            rcases h with (h | h) | h
            · exact Or.inr ⟨part, by simp, h⟩
            · exact Or.inl h
            · rcases ih h with h | ⟨other, hother, h⟩
              · exact Or.inl h
              · exact Or.inr ⟨other, by simp [hother], h⟩
          · simp

/-- A single separator between parts without one: splitting takes the join apart. -/
theorem split_join {separator : Char} {parts : List String} (hne : parts ≠ [])
    (h : ∀ part ∈ parts, separator ∉ part.toList) :
    split separator (join (String.ofList [separator]) parts) = parts := by
  induction parts with
  | nil => exact absurd rfl hne
  | cons part parts ih =>
      have hpart : separator ∉ part.toList := h part (by simp)
      cases parts with
      | nil => simp [join, split, splitChars_of_notMem hpart]
      | cons next parts =>
          have hrest := ih (by simp) fun p hp => h p (by simp [hp])
          rw [join, split]
          rw [split] at hrest
          simp only [String.toList_append, String.toList_ofList, List.append_assoc,
            List.singleton_append]
          · rw [splitChars_append hpart, List.map_cons, hrest, String.ofList_toList]
          · simp

/-! ### Trimming -/

/-- No blank stands at an end. -/
structure Trimmed (cs : List Char) : Prop where
  head : ∀ c ∈ cs.head?, isBlankChar c = false
  last : ∀ c ∈ cs.getLast?, isBlankChar c = false

theorem trimLeft_eq_self {cs : List Char} (h : ∀ c ∈ cs.head?, isBlankChar c = false) :
    trimLeft cs = cs := by
  cases cs with
  | nil => rfl
  | cons c cs => rw [trimLeft, List.dropWhile_cons_of_neg (by simp [h c rfl])]

theorem Trimmed.trimChars_eq {cs : List Char} (h : Trimmed cs) : trimChars cs = cs := by
  rw [trimChars, trimLeft_eq_self h.head, trimLeft_eq_self (by simpa using h.last),
    List.reverse_reverse]

theorem Trimmed.trim_eq {s : String} (h : Trimmed s.toList) : trim s = s := by
  rw [trim, h.trimChars_eq, String.ofList_toList]

theorem trimmed_of_notBlank {cs : List Char} (h : ∀ c ∈ cs, isBlankChar c = false) : Trimmed cs :=
  ⟨fun c hc => h c (List.mem_of_mem_head? hc), fun c hc => h c (List.mem_of_getLast? hc)⟩

theorem trimLeft_of_notBlank {cs : List Char} (h : ∀ c ∈ cs, isBlankChar c = false) :
    trimLeft cs = cs :=
  trimLeft_eq_self (trimmed_of_notBlank h).head

theorem trimChars_of_notBlank {cs : List Char} (h : ∀ c ∈ cs, isBlankChar c = false) :
    trimChars cs = cs :=
  (trimmed_of_notBlank h).trimChars_eq

theorem head?_trimLeft (cs : List Char) : ∀ c ∈ (trimLeft cs).head?, isBlankChar c = false := by
  intro c hc
  have h := List.head?_dropWhile_not isBlankChar cs
  rw [trimLeft] at hc
  rw [hc] at h
  exact h

theorem trimChars_prefix (cs : List Char) : trimChars cs <+: trimLeft cs :=
  List.rdropWhile_prefix isBlankChar (trimLeft cs)

theorem trimmed_trimChars (cs : List Char) : Trimmed (trimChars cs) := by
  constructor
  · intro c hc
    obtain ⟨rest, hrest⟩ := trimChars_prefix cs
    refine head?_trimLeft cs c ?_
    rw [← hrest, List.head?_append, hc]
    rfl
  · intro c hc
    rw [trimChars, List.getLast?_reverse] at hc
    exact head?_trimLeft _ c hc

theorem trimmed_trim (s : String) : Trimmed (trim s).toList := by
  rw [trim, String.toList_ofList]
  exact trimmed_trimChars s.toList

theorem trim_trim (s : String) : trim (trim s) = trim s :=
  (trimmed_trim s).trim_eq

theorem trimChars_eq_nil_iff {cs : List Char} :
    trimChars cs = [] ↔ ∀ c ∈ cs, isBlankChar c = true := by
  constructor
  · intro h
    have hreverse : ∀ c ∈ trimLeft cs, isBlankChar c = true := by
      rw [trimChars, List.reverse_eq_nil_iff, trimLeft, List.dropWhile_eq_nil_iff] at h
      exact fun c hc => h c (List.mem_reverse.mpr hc)
    have hnil : trimLeft cs = [] := by
      cases hleft : trimLeft cs with
      | nil => rfl
      | cons c rest =>
          have hfirst := head?_trimLeft cs c (by rw [hleft]; rfl)
          rw [hreverse c (by simp [hleft])] at hfirst
          cases hfirst
    exact List.dropWhile_eq_nil_iff.mp hnil
  · intro h
    have hnil : trimLeft cs = [] := List.dropWhile_eq_nil_iff.mpr h
    rw [trimChars, hnil]
    rfl

theorem isBlank_iff {s : String} : isBlank s = true ↔ ∀ c ∈ s.toList, isBlankChar c = true := by
  rw [isBlank, List.all_eq_true]

theorem trim_eq_empty_iff {s : String} : trim s = "" ↔ isBlank s = true := by
  rw [isBlank_iff, ← trimChars_eq_nil_iff, trim, ← String.toList_inj,
    String.toList_ofList]
  rfl

theorem Trimmed.append {as bs : List Char} {separator : Char} (has : Trimmed as) (hbs : Trimmed bs)
    (hseparator : isBlankChar separator = false) : Trimmed (as ++ separator :: bs) := by
  constructor
  · intro c hc
    cases as with
    | nil =>
        cases hc
        exact hseparator
    | cons a as => exact has.head c hc
  · intro c hc
    rw [List.getLast?_append, List.getLast?_cons] at hc
    cases hlast : bs.getLast? with
    | none =>
        rw [hlast] at hc
        cases hc
        exact hseparator
    | some last =>
        rw [hlast] at hc
        cases hc
        exact hbs.last last hlast

theorem trimmed_join {separator : Char} {parts : List String}
    (hseparator : isBlankChar separator = false) (h : ∀ part ∈ parts, Trimmed part.toList) :
    Trimmed (join (String.ofList [separator]) parts).toList := by
  induction parts with
  | nil => exact ⟨by simp [join], by simp [join]⟩
  | cons part parts ih =>
      cases parts with
      | nil => exact h part (by simp)
      | cons next parts =>
          have hrest := ih fun p hp => h p (by simp [hp])
          rw [join]
          · simpa using (h part (by simp)).append hrest hseparator
          · simp

theorem mem_of_mem_trim {s : String} {c : Char} (h : c ∈ (trim s).toList) : c ∈ s.toList := by
  rw [trim, String.toList_ofList, trimChars, List.mem_reverse] at h
  have h := (List.dropWhile_sublist _).subset h
  rw [List.mem_reverse] at h
  exact (List.dropWhile_sublist _).subset h

/-! ### Case -/

/-- Only the character itself lower-cases to a character that is no letter. -/
theorem toLower_eq_iff {c d : Char} (hd : d.isAlpha = false) : c.toLower = d ↔ c = d := by
  by_cases hupper : c.val ≥ 'A'.val ∧ c.val ≤ 'Z'.val
  · have hlower : c.toLower.isAlpha = true := by
      have hlow := UInt32.le_iff_toNat_le.mp hupper.1
      have hhigh := UInt32.le_iff_toNat_le.mp hupper.2
      rw [Char.isAlpha, Char.isLower, Char.toLower, dif_pos hupper, Bool.or_eq_true]
      right
      simp only [ge_iff_le, Bool.and_eq_true, decide_eq_true_eq,
        UInt32.le_iff_toNat_le, UInt32.toNat_add]
      simp at hlow hhigh ⊢
      omega
    have halpha : c.isAlpha = true := by
      rw [Char.isAlpha, Char.isUpper, Bool.or_eq_true]
      exact Or.inl (by simpa using hupper)
    constructor
    · rintro rfl
      rw [hlower] at hd
      cases hd
    · rintro rfl
      rw [halpha] at hd
      cases hd
  · rw [Char.toLower, dif_neg hupper]

theorem mem_iff_of_sameName {a b : String} (h : sameName a b = true) {d : Char}
    (hd : d.isAlpha = false) : d ∈ a.toList ↔ d ∈ b.toList := by
  have hlower : ∀ s : String, d ∈ s.toList ↔ d ∈ (asciiLower s).toList := by
    intro s
    simp [toLower_eq_iff hd]
  rw [hlower a, hlower b, sameName_iff.mp h]

theorem isBlankChar_toLower (c : Char) : isBlankChar c.toLower = isBlankChar c := by
  by_cases hupper : c.val ≥ 'A'.val ∧ c.val ≤ 'Z'.val
  · have hlow := UInt32.le_iff_toNat_le.mp hupper.1
    have hhigh := UInt32.le_iff_toNat_le.mp hupper.2
    have hlower : c.toLower.toNat = c.toNat + 32 := by
      rw [Char.toNat, Char.toLower, dif_pos hupper, UInt32.toNat_add]
      simp at hlow hhigh ⊢
      omega
    have hnat : 65 ≤ c.toNat ∧ c.toNat ≤ 90 := ⟨hlow, hhigh⟩
    simp only [isBlankChar, Ranges.has, Ranges.holds, hlower, whiteSpace, List.any_cons,
      List.any_nil]
    grind
  · rw [Char.toLower, dif_neg hupper]

theorem trimmed_map_toLower {cs : List Char} : Trimmed (cs.map Char.toLower) ↔ Trimmed cs := by
  constructor
  · intro h
    refine ⟨fun c hc => ?_, fun c hc => ?_⟩
    · rw [← isBlankChar_toLower]
      exact h.head _ (by rw [List.head?_map, hc]; rfl)
    · rw [← isBlankChar_toLower]
      exact h.last _ (by rw [List.getLast?_map, hc]; rfl)
  · intro h
    refine ⟨fun c hc => ?_, fun c hc => ?_⟩
    · rw [List.head?_map] at hc
      obtain ⟨d, hd, rfl⟩ := Option.map_eq_some_iff.mp hc
      rw [isBlankChar_toLower]
      exact h.head d hd
    · rw [List.getLast?_map] at hc
      obtain ⟨d, hd, rfl⟩ := Option.map_eq_some_iff.mp hc
      rw [isBlankChar_toLower]
      exact h.last d hd

theorem trimmed_of_sameName {a b : String} (h : sameName a b = true) (hb : Trimmed b.toList) :
    Trimmed a.toList := by
  have hlist : a.toList.map Char.toLower = b.toList.map Char.toLower := by
    simpa using congrArg String.toList (sameName_iff.mp h)
  rw [← trimmed_map_toLower, hlist, trimmed_map_toLower]
  exact hb

end Text

end RecordQuery
