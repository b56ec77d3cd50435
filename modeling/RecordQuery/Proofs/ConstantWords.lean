import RecordQuery.Proofs.ConstantNames

/-!
# Words of names

A constant spells the words of a name in upper case. Two fields get the same constant exactly if
their names consist of the same words, ASCII case aside, whatever parts the words: an underscore, a
hyphen, a dot or the beginning of a capital. Names in snake case that differ get different constants.
-/

namespace RecordQuery.Derive

/-! ### Words -/

/-- A capital begins a word behind a letter or digit that is no capital. -/
def beginsWord (last c : Char) : Bool :=
  isAlphanumeric last && !Text.uppercase.has last && Text.uppercase.has c

/-- The words of a name, possibly empty ones. -/
def words : List Char → List (List Char)
  | [] => [[]]
  | c :: cs =>
    if isSeparator c then [] :: words cs
    else if cs.head?.any (beginsWord c) then [c] :: words cs
    else (words cs).modifyHead (c :: ·)

example : words ['a', 'B', '.', 'c', '1', 'D', 'E'] = [['a'], ['B'], ['c', '1'], ['D', 'E']] := by
  decide +kernel

theorem words_ne_nil (cs : List Char) : words cs ≠ [] := by
  induction cs with
  | nil => simp [words]
  | cons c cs ih =>
      rw [words]
      split
      · simp
      · split <;> simp [List.modifyHead_eq_nil_iff, ih]

theorem of_mem_modifyHead {α : Type} {f : α → α} {xs : List α} {y : α}
    (h : y ∈ xs.modifyHead f) : y ∈ xs ∨ ∃ x ∈ xs, y = f x := by
  cases xs with
  | nil => cases h
  | cons x xs =>
      rcases List.mem_cons.mp h with rfl | h
      · exact Or.inr ⟨x, by simp, rfl⟩
      · exact Or.inl (by simp [h])

theorem isSeparator_of_mem_words {cs word : List Char} (h : word ∈ words cs) {c : Char}
    (hc : c ∈ word) : isSeparator c = false := by
  induction cs generalizing word with
  | nil =>
      rw [List.mem_singleton.mp h] at hc
      cases hc
  | cons d cs ih =>
      rw [words] at h
      split at h
      next =>
        rcases List.mem_cons.mp h with rfl | h
        · cases hc
        · exact ih h hc
      next hd =>
        have hd : isSeparator d = false := by simpa using hd
        split at h
        next =>
          rcases List.mem_cons.mp h with rfl | h
          · rwa [List.mem_singleton.mp hc]
          · exact ih h hc
        next =>
          rcases of_mem_modifyHead h with h | ⟨first, hfirst, rfl⟩
          · exact ih h hc
          · rcases List.mem_cons.mp hc with rfl | hc
            · exact hd
            · exact ih hfirst hc

/-! ### Upper case -/

theorem toUpper_of_uppercase {c : Char} (h : Text.uppercase.has c = true) : c.toUpper = c := by
  refine Char.toUpper_eq_of_not_isLower fun hlower => ?_
  have hbounds : 0x61 ≤ c.toNat ∧ c.toNat ≤ 0x7a := by
    simpa [Char.isLower, UInt32.le_iff_toNat_le] using hlower
  have hranges : Text.uppercase.all (fun range => range.2 < 0x61 || 0x7a < range.1) = true := by
    decide +kernel
  obtain ⟨range, hmem, hrange⟩ := List.any_eq_true.mp h
  have hapart := List.all_eq_true.mp hranges range hmem
  simp only [Bool.and_eq_true, Bool.or_eq_true, decide_eq_true_eq] at hrange hapart
  omega

/-- Words in capitals with underscores between them. -/
def inCapitals (parts : List (List Char)) : List Char :=
  ['_'].intercalate (parts.map (List.map Char.toUpper))

section InCapitals

variable {parts : List (List Char)}

theorem inCapitals_cons (hne : parts ≠ []) (word : List Char) :
    inCapitals (word :: parts) = word.map Char.toUpper ++ '_' :: inCapitals parts := by
  rw [inCapitals, List.map_cons, List.intercalate_cons_of_ne_nil (by simpa using hne),
    List.append_assoc, List.singleton_append, inCapitals]

theorem inCapitals_modifyHead (hne : parts ≠ []) (c : Char) :
    inCapitals (parts.modifyHead (c :: ·)) = c.toUpper :: inCapitals parts := by
  obtain ⟨word, rest, rfl⟩ := List.exists_cons_of_ne_nil hne
  cases rest <;> simp [inCapitals]

end InCapitals

/-- What is written from the middle of a name on: its words, behind an underscore if a capital
follows a small letter or digit. -/
theorem constantChars_eq (inWord : Bool) (cs : List Char) :
    constantChars inWord cs =
      (if inWord && cs.head?.any Text.uppercase.has then ['_'] else []) ++
        inCapitals (words cs) := by
  induction cs generalizing inWord with
  | nil => simp [constantChars, words, inCapitals]
  | cons c cs ih =>
      have hne := words_ne_nil cs
      rw [constantChars, words]
      by_cases hupper : Text.uppercase.has c
      · -- behind a capital no capital begins a word
        have hplain : cs.head?.any (beginsWord c) = false := by
          cases cs <;> simp [beginsWord, hupper]
        rw [if_pos hupper, isSeparator_of_uppercase hupper, hplain, if_neg Bool.false_ne_true,
          if_neg Bool.false_ne_true, inCapitals_modifyHead hne, toUpper_of_uppercase hupper, ih]
        cases inWord <;> simp [hupper]
      · by_cases hseparator : isSeparator c
        · simp [hupper, hseparator, ih, inCapitals_cons hne]
        · have hbegins : cs.head?.any (beginsWord c) =
              (isAlphanumeric c && cs.head?.any Text.uppercase.has) := by
            cases cs <;> simp [beginsWord, hupper]
          rw [if_neg hupper, if_neg hseparator, if_neg hseparator, hbegins, ih]
          split
          next => simp [hupper, inCapitals_cons hne]
          next => simp [hupper, inCapitals_modifyHead hne]

/-- **A constant spells the words of its name in capitals.** -/
theorem constantName_eq (name : String) :
    constantName name = String.ofList (inCapitals (words name.toList)) := by
  rw [constantName, constantChars_eq, Bool.false_and, if_neg Bool.false_ne_true, List.nil_append]

/-! ### Equal constants -/

/-- The words in capitals are read off the constant, since they hold no underscore. -/
theorem splitOn_constantName (name : String) :
    (constantName name).toList.splitOn '_' = (words name.toList).map (List.map Char.toUpper) := by
  rw [constantName_eq, String.toList_ofList]
  refine List.splitOn_intercalate '_' ?_ (by simp [words_ne_nil])
  intro word hword hmem
  obtain ⟨plain, hplain, rfl⟩ := List.mem_map.mp hword
  obtain ⟨c, hc, hupper⟩ := List.mem_map.mp hmem
  have hlower : c.toLower = '_' := by
    rw [← Char.toLower_toUpper_eq_toLower, hupper]
    rfl
  rw [(Text.toLower_eq_iff rfl).mp hlower] at hc
  exact absurd (isSeparator_of_mem_words hplain hc) (by decide)

/-- Two names consist of the same words, ASCII case aside. -/
def SameWords (a b : String) : Prop :=
  (words a.toList).map (List.map Char.toLower) = (words b.toList).map (List.map Char.toLower)

instance : DecidableRel SameWords :=
  fun _ _ => inferInstanceAs (Decidable (_ = _))

/-- **Two names have the same constant exactly if they consist of the same words.** -/
theorem constantName_eq_iff {a b : String} :
    constantName a = constantName b ↔ SameWords a b := by
  constructor
  · intro h
    have hupper : (words a.toList).map (List.map Char.toUpper) =
        (words b.toList).map (List.map Char.toUpper) := by
      rw [← splitOn_constantName, h, splitOn_constantName]
    simpa [SameWords, Function.comp_def] using congrArg (List.map (List.map Char.toLower)) hupper
  · intro h
    have hupper : (words a.toList).map (List.map Char.toUpper) =
        (words b.toList).map (List.map Char.toUpper) := by
      simpa [Function.comp_def] using congrArg (List.map (List.map Char.toUpper)) h
    rw [constantName_eq, constantName_eq, inCapitals, inCapitals, hupper]

/-! ### Snake case -/

/-- No capitals, and no separators but underscores. -/
def isSnakeCase (name : String) : Bool :=
  name.toList.all fun c => !Text.uppercase.has c && (c == '_' || !isSeparator c)

theorem constantChars_of_snakeCase {cs : List Char}
    (h : cs.all fun c => !Text.uppercase.has c && (c == '_' || !isSeparator c)) (inWord : Bool) :
    constantChars inWord cs = cs.map Char.toUpper := by
  induction cs generalizing inWord with
  | nil => rfl
  | cons c cs ih =>
      obtain ⟨hc, hcs⟩ := Bool.and_eq_true_iff.mp h
      obtain ⟨hupper, hseparator⟩ := Bool.and_eq_true_iff.mp hc
      rw [constantChars, if_neg (by simpa using hupper), List.map_cons, ih hcs, ih hcs]
      split
      next hsep =>
        have hunderscore : c = '_' := by simpa [hsep] using hseparator
        rw [hunderscore]
        rfl
      next => rfl

/-- A name in snake case is the lower case of its constant. -/
theorem map_toLower_constantName {name : String} (h : isSnakeCase name = true) :
    (constantName name).toList.map Char.toLower = name.toList := by
  rw [constantName, String.toList_ofList, constantChars_of_snakeCase h, List.map_map]
  conv_rhs => rw [← List.map_id name.toList]
  refine List.map_congr_left fun c hc => ?_
  rw [Function.comp_apply, Char.toLower_toUpper_eq_toLower]
  refine Char.toLower_eq_of_not_isUpper fun hupper => ?_
  have huppercase : Text.uppercase.has c = true := Text.Ranges.has_of_isUpper (by decide) hupper
  simpa [huppercase] using List.all_eq_true.mp h c hc

theorem eq_of_constantName {a b : String} (ha : isSnakeCase a = true) (hb : isSnakeCase b = true)
    (h : constantName a = constantName b) : a = b := by
  rw [← String.toList_inj, ← map_toLower_constantName ha, h, map_toLower_constantName hb]

/-! ### Constants of a struct -/

/-- **When constants differ.** The constants of an accepted struct spell the words of the names of its
kept fields in capitals. They differ exactly if no two of the names consist of the same words. If all
the names are in snake case, it is enough that the names differ. -/
theorem DerivedSchema.constants_differ_iff {description : Description} {schema : DerivedSchema}
    (h : ofDescription description = .ok schema) :
    ∃ fields, Declaration.ofText? description.source = some ⟨schema.name, false, .named fields⟩ ∧
      schema.constants = (fields.filterMap DeclaredField.entryTold?).map
        (fun entry => (String.ofList (inCapitals (words entry.name.toList)), entry.name)) ∧
      ((schema.constants.map Prod.fst).Nodup ↔
        (schema.constants.map Prod.snd).Pairwise fun a b => ¬ SameWords a b) ∧
      ((∀ name ∈ schema.constants.map Prod.snd, isSnakeCase name = true) →
        ((schema.constants.map Prod.fst).Nodup ↔ (schema.constants.map Prod.snd).Nodup)) := by
  obtain ⟨fields, hfields, -, hentries⟩ := ofDescription_eq_ok.mp h
  have hfirst : schema.constants.map Prod.fst =
      (schema.constants.map Prod.snd).map constantName := by
    rw [constants, List.map_map, List.map_map, List.map_map]
    rfl
  refine ⟨fields, hfields, ?_, ?_, ?_⟩
  · simp only [constants, hentries, Entry.constant, constantName_eq]
  · rw [hfirst, List.nodup_iff_pairwise_ne, List.pairwise_map]
    simp only [ne_eq, constantName_eq_iff]
  · intro hsnake
    rw [hfirst]
    refine ⟨List.Nodup.of_map constantName, List.Nodup.map_on fun a ha b hb => ?_⟩
    exact eq_of_constantName (hsnake a ha) (hsnake b hb)

namespace Ticket

/-- A field in snake case and another one. -/
def described (other : String) : Description where
  name := "Ticket"
  fields := [("tag_id", "u8", ["seek(Number)"]), (other, "u8", ["seek(Number)"])]

theorem constants_differ : ∃ schema,
    DerivedSchema.ofDescription (described "tag_no") = .ok schema ∧
      (∀ name ∈ schema.constants.map Prod.snd, isSnakeCase name = true) ∧
      (schema.constants.map Prod.snd).Pairwise (fun a b => ¬ SameWords a b) ∧
      (schema.constants.map Prod.fst).Nodup := by
  have hconstants : (DerivedSchema.ofDescription (described "tag_no")).toOption.map
      DerivedSchema.constants =
        some [("TAG_ID", "tag_id"), ("TAG_NO", "tag_no")] := by decide +kernel
  obtain ⟨schema, hschema, hconstants⟩ := toOption_map_eq_some.mp hconstants
  obtain ⟨fields, -, -, hwords, hsnake⟩ := DerivedSchema.constants_differ_iff hschema
  have hnames : ∀ name ∈ schema.constants.map Prod.snd, isSnakeCase name = true := by
    rw [hconstants]
    decide +kernel
  have hnodup : (schema.constants.map Prod.fst).Nodup :=
    (hsnake hnames).mpr (by rw [hconstants]; decide)
  exact ⟨schema, hschema, hnames, hwords.mp hnodup, hnodup⟩

/-- The names differ, but the words and the constants do not. -/
theorem constants_collide : ∃ schema,
    DerivedSchema.ofDescription (described "tagId") = .ok schema ∧
      (schema.constants.map Prod.snd).Nodup ∧ ¬ (schema.constants.map Prod.fst).Nodup := by
  have hconstants : (DerivedSchema.ofDescription (described "tagId")).toOption.map
      DerivedSchema.constants =
        some [("TAG_ID", "tag_id"), ("TAG_ID", "tagId")] := by decide +kernel
  obtain ⟨schema, hschema, hconstants⟩ := toOption_map_eq_some.mp hconstants
  exact ⟨schema, hschema, by rw [hconstants]; decide, by rw [hconstants]; decide⟩

end Ticket

end RecordQuery.Derive
