import RecordQuery.Proofs.DerivedEntries

/-!
# Names of constants

The name of a field in queries is any text, but the name of its constant has to be an identifier.
Case and the underscores between words do not matter for that: the constant is an identifier exactly
if the name is one, once its hyphens and dots are underscores. A derivation stops at the first field
whose name is none, and no error is reported there.
-/

namespace RecordQuery

/-! ### Upper case -/

theorem Text.Ranges.has_of_mem {ranges : Ranges} {first last : Nat} (h : (first, last) ∈ ranges)
    {c : Char} (hfirst : first ≤ c.toNat) (hlast : c.toNat ≤ last) : ranges.has c = true := by
  rw [has, holds, List.any_eq_true]
  exact ⟨(first, last), h, by simp [hfirst, hlast]⟩

theorem Text.Ranges.has_of_isLower {ranges : Ranges} (h : (0x61, 0x7a) ∈ ranges) {c : Char}
    (hc : c.isLower = true) : ranges.has c = true := by
  have hbounds : 0x61 ≤ c.toNat ∧ c.toNat ≤ 0x7a := by
    simpa [Char.isLower, UInt32.le_iff_toNat_le] using hc
  exact has_of_mem h hbounds.1 hbounds.2

theorem Text.Ranges.has_of_isUpper {ranges : Ranges} (h : (0x41, 0x5a) ∈ ranges) {c : Char}
    (hc : c.isUpper = true) : ranges.has c = true := by
  have hbounds : 0x41 ≤ c.toNat ∧ c.toNat ≤ 0x5a := by
    simpa [Char.isUpper, UInt32.le_iff_toNat_le] using hc
  exact has_of_mem h hbounds.1 hbounds.2

/-- A class with all ASCII letters has a character exactly if it has its upper case. -/
theorem Text.Ranges.has_toUpper {ranges : Ranges} (hupper : (0x41, 0x5a) ∈ ranges)
    (hlower : (0x61, 0x7a) ∈ ranges) (c : Char) : ranges.has c.toUpper = ranges.has c := by
  by_cases hc : c.isLower = true
  · have hletter : c.toUpper.isUpper = true := by
      rw [Char.isUpper_toUpper_eq_isAlpha, Char.isAlpha, hc, Bool.or_true]
    rw [has_of_isUpper hupper hletter, has_of_isLower hlower hc]
  · rw [Char.toUpper_eq_of_not_isLower (by simpa using hc)]

namespace Derive

theorem continuesWord_toUpper (c : Char) : continuesWord c.toUpper = continuesWord c :=
  Text.Ranges.has_toUpper (by decide) (by decide) c

theorem opensWord_toUpper (c : Char) : opensWord c.toUpper = opensWord c := by
  by_cases hc : c.isLower = true
  · have hstart : Text.identifierStart.has c = true := Text.Ranges.has_of_isLower (by decide) hc
    rw [opensWord, opensWord, Text.Ranges.has_toUpper (by decide) (by decide), hstart,
      Bool.or_true, Bool.or_true]
  · rw [Char.toUpper_eq_of_not_isLower (by simpa using hc)]

/-! ### Names that spell words -/

/-- A character of a name as it stands in a word: separators are underscores there. -/
def wordChar (c : Char) : Char :=
  if isSeparator c then '_' else c

def spellsWord (name : String) : Bool :=
  isWord (name.toList.map wordChar)

theorem isWord_cons (c : Char) (cs : List Char) :
    isWord (c :: cs) = (opensWord c && cs.all continuesWord) := by
  rw [isWord, takeWord?]
  by_cases hc : opensWord c
  · rw [if_pos hc, hc, Bool.true_and, Bool.eq_iff_iff, List.isEmpty_iff,
      List.dropWhile_eq_nil_iff, List.all_eq_true]
  · simp [hc]

theorem isSeparator_of_uppercase {c : Char} (h : Text.uppercase.has c = true) :
    isSeparator c = false := by
  cases hc : isSeparator c with
  | false => rfl
  | true =>
      have hcases : c = '_' ∨ c = '-' ∨ c = '.' := by simpa [isSeparator, or_assoc] using hc
      rcases hcases with rfl | rfl | rfl <;> exact absurd h (by decide +kernel)

theorem all_constantChars (inWord : Bool) (cs : List Char) :
    (constantChars inWord cs).all continuesWord = (cs.map wordChar).all continuesWord := by
  induction cs generalizing inWord with
  | nil => rfl
  | cons c cs ih =>
      have hunderscore : continuesWord '_' = true := by decide +kernel
      rw [constantChars, List.map_cons, List.all_cons, wordChar]
      by_cases hupper : Text.uppercase.has c
      · cases inWord <;> simp [hupper, isSeparator_of_uppercase hupper, hunderscore, ih]
      · by_cases hseparator : isSeparator c <;>
          simp [hupper, hseparator, hunderscore, ih, continuesWord_toUpper]

/-- The constant for a name is an identifier exactly if the name spells one. -/
theorem isWord_constantName (name : String) :
    isWord (constantName name).toList = spellsWord name := by
  rw [constantName, String.toList_ofList, spellsWord]
  cases name.toList with
  | nil => rfl
  | cons c cs =>
      rw [constantChars, List.map_cons, isWord_cons, ← all_constantChars (isAlphanumeric c),
        wordChar]
      by_cases hupper : Text.uppercase.has c
      · simp [hupper, isSeparator_of_uppercase hupper, isWord_cons, all_constantChars]
      · by_cases hseparator : isSeparator c <;>
          simp [hupper, hseparator, isWord_cons, all_constantChars, opensWord_toUpper]

/-! ### Errors -/

namespace DeclaredField

/-- The field can be read, and the name of its entry, if it has one, spells a word. -/
def Spelled (field : DeclaredField) : Prop :=
  field.Readable ∧ ∀ entry, field.entryTold? = some entry → spellsWord entry.name = true

theorem accepted_iff {field : DeclaredField} : field.Accepted ↔ field.Spelled := by
  simp only [Accepted, Spelled, Entry.constant, isWord_constantName]

end DeclaredField

theorem entryOf?_eq_noConstantName {field : DeclaredField} {name : String} :
    entryOf? field = .error (.noConstantName name) ↔ field.Readable ∧
      ∃ entry, field.entryTold? = some entry ∧ entry.name = name ∧ spellsWord name = false := by
  by_cases hreadable : field.Readable
  · rw [entryOf?_of_readable hreadable]
    cases field.entryTold? with
    | none => simp
    | some entry =>
        simp only [Entry.constant, isWord_constantName]
        by_cases hword : spellsWord entry.name
        · rw [if_pos hword]
          simp only [reduceCtorEq, false_iff]
          rintro ⟨-, _, hentry, rfl, hname⟩
          cases hentry
          rw [hword] at hname
          cases hname
        · rw [if_neg hword]
          simp only [Except.error.injEq, DeriveError.noConstantName.injEq, hreadable, true_and]
          constructor
          · rintro rfl
            exact ⟨entry, rfl, rfl, by simpa using hword⟩
          · rintro ⟨_, hentry, rfl, -⟩
            cases hentry
            rfl
  · have herror : ¬ entryOf? field = .error (.noConstantName name) := by
      intro h
      rw [entryOf?] at h
      rcases bind_eq_error.mp h with hread | ⟨options, hoptions, -⟩
      · exact (SeekOptions.ofAttributes?_gives _).ne_noConstantName name hread
      · exact hreadable ⟨options, hoptions⟩
    exact iff_of_false herror fun h => hreadable h.1

/-- Fields fail exactly if one of them does, and none before it. -/
theorem entriesOf_eq_error {fields : List DeclaredField} {error : DeriveError} :
    entriesOf fields = .error error ↔ ∃ before field after, fields = before ++ field :: after ∧
      (∀ other ∈ before, other.Accepted) ∧ entryOf? field = .error error := by
  induction fields with
  | nil => simp [entriesOf, pure, Except.pure]
  | cons first fields ih =>
      rw [entriesOf, bind_eq_error]
      constructor
      · rintro (hfirst | ⟨found, hfirst, hrest⟩)
        · exact ⟨[], first, fields, rfl, by simp, hfirst⟩
        · rcases bind_eq_error.mp hrest with hfields | ⟨entries, -, hentries⟩
          · obtain ⟨before, field, after, rfl, hbefore, hfield⟩ := ih.mp hfields
            refine ⟨first :: before, field, after, rfl, ?_, hfield⟩
            exact List.forall_mem_cons.mpr ⟨(entryOf?_eq_ok.mp hfirst).1, hbefore⟩
          · cases hentries
      · rintro ⟨before, field, after, hfields, hbefore, hfield⟩
        cases before with
        | nil =>
            cases hfields
            exact Or.inl hfield
        | cons other before =>
            cases hfields
            obtain ⟨hother, hbefore⟩ := List.forall_mem_cons.mp hbefore
            refine Or.inr ⟨_, entryOf?_eq_ok.mpr ⟨hother, rfl⟩, bind_eq_error.mpr (Or.inl ?_)⟩
            exact ih.mpr ⟨before, field, after, rfl, hbefore, hfield⟩

namespace DerivedSchema

theorem ofDeclaration_eq_noConstantName {declaration : Declaration} {name : String} :
    ofDeclaration declaration = .error (.noConstantName name) ↔
      ∃ struct before field after,
        declaration = ⟨struct, false, .named (before ++ field :: after)⟩ ∧
          (∀ other ∈ before, other.Spelled) ∧ field.Readable ∧
            ∃ entry, field.entryTold? = some entry ∧ entry.name = name ∧
              spellsWord name = false := by
  obtain ⟨struct, generic, body⟩ := declaration
  cases generic with
  | true => simp [ofDeclaration]
  | false => cases body with
    | unnamed => simp [ofDeclaration]
    | other => simp [ofDeclaration]
    | named fields =>
        rw [ofDeclaration, if_neg (by simp), map_eq_error, entriesOf_eq_error]
        simp only [entryOf?_eq_noConstantName, DeclaredField.accepted_iff]
        constructor
        · rintro ⟨before, field, after, rfl, hbefore, hfield⟩
          exact ⟨struct, before, field, after, rfl, hbefore, hfield⟩
        · rintro ⟨_, before, field, after, hdeclaration, hbefore, hfield⟩
          cases hdeclaration
          exact ⟨before, field, after, rfl, hbefore, hfield⟩

/-- **What a derivation gives.** It gives code exactly for a struct with named fields and without
generics, all of whose fields can be read and make their entries with names that spell words. It
stops without a reported error exactly at a field whose name spells none, if every field before it
is in order. -/
theorem ofDescription_outcome (description : Description) :
    (∀ schema, ofDescription description = .ok schema ↔ ∃ fields,
      Declaration.ofText? description.source = some ⟨schema.name, false, .named fields⟩ ∧
        (∀ field ∈ fields, field.Spelled) ∧
          schema.entries = fields.filterMap DeclaredField.entryTold?) ∧
    ∀ name, ofDescription description = .error (.noConstantName name) ↔
      ∃ struct before field after,
        Declaration.ofText? description.source =
            some ⟨struct, false, .named (before ++ field :: after)⟩ ∧
          (∀ other ∈ before, other.Spelled) ∧ field.Readable ∧
            ∃ entry, field.entryTold? = some entry ∧ entry.name = name ∧
              spellsWord name = false := by
  constructor
  · intro schema
    simp only [ofDescription_eq_ok, DeclaredField.accepted_iff]
  · intro name
    rw [ofDescription]
    cases Declaration.ofText? description.source with
    | none => simp
    | some declaration =>
        simp only [ofDeclaration_eq_noConstantName, Option.some.injEq]

end DerivedSchema

/-! ### A name that spells no word -/

namespace Invoice

/-- A field with an empty name in queries. -/
def described : Description where
  name := "Invoice"
  fields := [("total", "u64", ["seek(Number, rename = \"\")"])]

theorem empty_name_unreported :
    DerivedSchema.ofDescription described = .error (.noConstantName "") := by
  have herror : (match DerivedSchema.ofDescription described with
      | .ok _ => none
      | .error error => some error) = some (.noConstantName "") := by decide +kernel
  cases h : DerivedSchema.ofDescription described with
  | ok schema => simp [h] at herror
  | error error =>
      rw [h] at herror
      exact congrArg Except.error (Option.some.inj herror)

end Invoice

end Derive

end RecordQuery
