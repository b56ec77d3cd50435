import RecordQuery.Proofs.Spellings
import RecordQuery.Search
import RecordQuery.Specification

/-!
# Letter case of names

Paths, sort texts and tokens are read without regard to ASCII case: what is read from a text is
read from its lower case too. Lower case keeps separators and blanks in their places, so texts may
be split and trimmed before or after.
-/

namespace RecordQuery

namespace Text

/-! ### Lower case of parts -/

theorem asciiLower_asciiLower (s : String) : asciiLower (asciiLower s) = asciiLower s := by
  simp [← String.toList_inj]

theorem asciiLower_append (s t : String) :
    asciiLower (s ++ t) = asciiLower s ++ asciiLower t := by
  simp [← String.toList_inj]

theorem sameName_asciiLower (s : String) : sameName (asciiLower s) s = true :=
  sameName_iff.mpr (asciiLower_asciiLower s)

theorem dropWhile_map_toLower {p : Char → Bool} (h : ∀ c, p c.toLower = p c) (cs : List Char) :
    (cs.map Char.toLower).dropWhile p = (cs.dropWhile p).map Char.toLower := by
  rw [List.dropWhile_map]
  congr 2
  exact funext h

theorem takeWhile_map_toLower {p : Char → Bool} (h : ∀ c, p c.toLower = p c) (cs : List Char) :
    (cs.map Char.toLower).takeWhile p = (cs.takeWhile p).map Char.toLower := by
  rw [List.takeWhile_map]
  congr 2
  exact funext h

theorem trimChars_map_toLower (cs : List Char) :
    trimChars (cs.map Char.toLower) = (trimChars cs).map Char.toLower := by
  simp only [trimChars, trimLeft, dropWhile_map_toLower isBlankChar_toLower, ← List.map_reverse]

theorem trim_asciiLower (s : String) : trim (asciiLower s) = asciiLower (trim s) := by
  simp [← String.toList_inj, trim, trimChars_map_toLower]

theorem isEmpty_asciiLower (s : String) : (asciiLower s).isEmpty = s.isEmpty := by
  rw [Bool.eq_iff_iff, String.isEmpty_iff, String.isEmpty_iff, ← String.toList_inj,
    ← String.toList_inj, toList_asciiLower, String.toList_empty, List.map_eq_nil_iff]

section Separator

variable {separator : Char} (hseparator : separator.isAlpha = false)
include hseparator

theorem splitChars_map_toLower (cs : List Char) :
    splitChars separator (cs.map Char.toLower) =
      (splitChars separator cs).map (List.map Char.toLower) := by
  induction cs with
  | nil => rfl
  | cons c cs ih =>
      simp only [List.map_cons, splitChars, toLower_eq_iff hseparator, ih]
      split
      · rfl
      · cases splitChars separator cs <;> rfl

theorem split_asciiLower (s : String) :
    split separator (asciiLower s) = (split separator s).map asciiLower := by
  simp only [split, toList_asciiLower, splitChars_map_toLower hseparator, List.map_map]
  refine List.map_congr_left fun part _ => ?_
  simp [asciiLower]

theorem splitOnce_asciiLower (s : String) :
    splitOnce separator (asciiLower s) =
      (splitOnce separator s).map (Prod.map asciiLower asciiLower) := by
  have hbne : ∀ c : Char, (c.toLower != separator) = (c != separator) := by
    intro c
    rw [Bool.eq_iff_iff, bne_iff_ne, bne_iff_ne]
    exact not_congr (toLower_eq_iff hseparator)
  rw [splitOnce, splitOnce, List.span_eq_takeWhile_dropWhile, List.span_eq_takeWhile_dropWhile,
    toList_asciiLower, takeWhile_map_toLower hbne, dropWhile_map_toLower hbne]
  cases s.toList.dropWhile (· != separator) <;> simp [asciiLower]

end Separator

/-! ### Readers -/

/-- What is read from a text is read from its lower case too. -/
def CaseBlind {α : Type} (read : String → α) : Prop :=
  ∀ s, read (asciiLower s) = read s

theorem CaseBlind.congr {α : Type} {read : String → α} (h : CaseBlind read) {a b : String}
    (hab : sameName a b = true) : read a = read b := by
  rw [← h a, sameName_iff.mp hab, h b]

theorem sameName_caseBlind (name : String) : CaseBlind fun s => sameName s name := by
  intro s
  simp only [sameName, asciiLower_asciiLower]

theorem isBlank_caseBlind : CaseBlind isBlank := by
  intro s
  simp only [isBlank, toList_asciiLower, List.all_map, Function.comp_def, isBlankChar_toLower]

end Text

open Text (asciiLower CaseBlind)

theorem Combinator.ofKey?_caseBlind : CaseBlind Combinator.ofKey? := by
  intro key
  simp only [ofKey?, Text.sameName, Text.asciiLower_asciiLower]
  rfl

theorem Operator.ofToken?_caseBlind : CaseBlind Operator.ofToken? := by
  intro token
  rw [ofToken?, ofToken?, Text.toList_asciiLower]
  cases token.toList with
  | nil => rfl
  | cons c cs =>
      have hlower : (cs.map Char.toLower).map Char.toLower = cs.map Char.toLower := by simp
      by_cases hdollar : c = '$'
      · subst hdollar
        rw [List.map_cons, show Char.toLower '$' = '$' from rfl]
        simp [hlower]
      · have hdollar' : c.toLower ≠ '$' := mt (Text.toLower_eq_iff rfl).mp hdollar
        simp [hdollar, hdollar']

theorem startsWithDollar_caseBlind : CaseBlind Filter.startsWithDollar := by
  intro key
  rw [Filter.startsWithDollar, Filter.startsWithDollar, Text.toList_asciiLower, List.head?_map]
  cases key.toList.head? with
  | none => rfl
  | some c =>
      rw [Option.map_some, Bool.eq_iff_iff, beq_iff_eq, beq_iff_eq, Option.some.injEq,
        Option.some.injEq]
      exact Text.toLower_eq_iff rfl

namespace Schema

theorem resolve?_caseBlind (schema : Schema) : CaseBlind schema.resolve? := by
  intro path
  rw [resolve?, resolve?, Text.split_asciiLower rfl]
  refine follow?_congr ?_
  rw [List.map_map, List.forall₂_map_left_iff, List.forall₂_map_right_iff, List.forall₂_same]
  intro segment _
  rw [Function.comp_apply, Text.trim_asciiLower]
  exact Text.sameName_asciiLower _

end Schema

/-! ### Sort texts -/

theorem Direction.ofToken?_caseBlind : CaseBlind Direction.ofToken? := by
  intro token
  have hlower : ∀ cs : List Char, (cs.map Char.toLower).map Char.toLower = cs.map Char.toLower := by
    simp
  rw [ofToken?, ofToken?, Text.toList_asciiLower, Text.trimChars_map_toLower, hlower]

namespace SortOrder

variable {schema : Schema}

theorem splitEntry_asciiLower (entry : String) :
    (splitEntry (asciiLower entry)).toOption =
      (splitEntry entry).toOption.map (Prod.map asciiLower id) := by
  rw [splitEntry, splitEntry, Text.splitOnce_asciiLower rfl]
  cases Text.splitOnce ':' entry with
  | none => simp [Except.toOption, Text.trim_asciiLower]
  | some parts =>
      obtain ⟨path, token⟩ := parts
      simp only [Option.map_some, Prod.map_apply, Direction.ofToken,
        Direction.ofToken?_caseBlind token, Text.trim_asciiLower]
      cases Direction.ofToken? token <;> rfl

theorem readKey_caseBlind : CaseBlind fun entry => (readKey schema entry).toOption := by
  intro entry
  dsimp only
  rw [readKey, readKey, toOption_bind, toOption_bind, splitEntry_asciiLower]
  cases (splitEntry entry).toOption with
  | none => rfl
  | some parts =>
      obtain ⟨text, dir⟩ := parts
      simp only [Option.map_some, Option.bind_some, Prod.map_apply, id_eq,
        schema.resolve?_caseBlind text]
      cases schema.resolve? text with
      | none => rfl
      | some path =>
          dsimp only
          split <;> rfl

theorem readKeys_asciiLower (keys : List SortKey) (entries : List String) :
    (readKeys schema keys (entries.map asciiLower)).toOption =
      (readKeys schema keys entries).toOption := by
  induction entries generalizing keys with
  | nil => rfl
  | cons entry entries ih =>
      have hread : (readKey schema (asciiLower entry)).toOption = (readKey schema entry).toOption :=
        readKey_caseBlind entry
      rw [List.map_cons, readKeys, readKeys, toOption_bind, toOption_bind, hread]
      simp only [ih]

theorem entries_asciiLower (text : String) :
    entries (asciiLower text) = (entries text).map asciiLower := by
  rw [entries, entries, Text.split_asciiLower rfl, List.map_map, List.filter_map, List.filter_map,
    List.map_map]
  have hisEmpty : ((fun entry : String => !entry.isEmpty) ∘ Text.trim ∘ asciiLower) =
      (fun entry => !entry.isEmpty) ∘ Text.trim := by
    funext part
    simp only [Function.comp_apply, Text.trim_asciiLower, Text.isEmpty_asciiLower]
  rw [hisEmpty]
  exact List.map_congr_left fun part _ => Text.trim_asciiLower part

/-- **An order is read from the lower case of its text**, and so is the tie-breaker. -/
theorem compile_asciiLower (text : String) (tieBreaker : Option String) :
    (compile schema (asciiLower text) (tieBreaker.map asciiLower)).toOption =
      (compile schema text tieBreaker).toOption := by
  have htie : ((tieBreaker.map asciiLower).map Text.trim).filter (fun tie => !tie.isEmpty) =
      ((tieBreaker.map Text.trim).filter fun tie => !tie.isEmpty).map asciiLower := by
    cases tieBreaker with
    | none => rfl
    | some tie =>
        simp only [Option.map_some, Text.trim_asciiLower, Option.filter_some,
          Text.isEmpty_asciiLower]
        split <;> rfl
  rw [compile, compile, toOption_bind, toOption_bind, entries_asciiLower, readKeys_asciiLower, htie]
  refine congrArg _ (funext fun keys => ?_)
  cases (tieBreaker.map Text.trim).filter fun tie => !tie.isEmpty with
  | none => rfl
  | some tie =>
      have hread : (readKey schema (asciiLower tie)).toOption = (readKey schema tie).toOption :=
        readKey_caseBlind tie
      simp only [Option.map_some, toOption_bind, hread]

end SortOrder

/-! ### Targets and includes -/

namespace Search

theorem explicitTargets_asciiLower (schema : Schema) (names : List String) :
    explicitTargets schema (names.map asciiLower) = explicitTargets schema names := by
  simp only [explicitTargets, List.foldl_map, schema.resolve?_caseBlind _]

theorem compile_asciiLower (schema : Schema) (keyword : String) (names? : Option (List String))
    (depth : Int) :
    compile schema keyword (names?.map (List.map asciiLower)) depth =
      compile schema keyword names? depth := by
  have htargets : targets schema (names?.map (List.map asciiLower)) depth.toNat =
      targets schema names? depth.toNat := by
    rcases names? with _ | _ | ⟨name, names⟩
    · rfl
    · rfl
    · exact explicitTargets_asciiLower schema (name :: names)
  rw [compile, compile, htargets]

end Search

namespace Builder

theorem resolveInclude_caseBlind (schema : Schema) :
    CaseBlind fun path => (resolveInclude schema path).toOption := by
  intro path
  dsimp only
  rw [resolveInclude, resolveInclude, schema.resolve?_caseBlind path]
  cases schema.resolve? path <;> rfl

end Builder

end RecordQuery
