import RecordQuery.Proofs.JsonText
import RecordQuery.Proofs.KeyedEntries
import RecordQuery.Proofs.Numerals

/-!
# Objects of scalars

An object whose members are texts, whole numbers, truth values and nulls is read back as it was
written.
-/

namespace RecordQuery

namespace Json

/-- A value without members whose number, if it is one, is whole. -/
inductive Scalar : Json → Prop where
  | null : Scalar .null
  | bool (b : Bool) : Scalar (.bool b)
  | text (s : String) : Scalar (.text s)
  | whole (n : Int) (range : -0x8000000000000000 ≤ n ∧ n < 0x10000000000000000) :
      Scalar (.number (.whole n range))

theorem skipBlanks_cons {c : Char} {cs : List Char}
    (h : ¬(c = ' ' ∨ c = '\t' ∨ c = '\n' ∨ c = '\r')) : skipBlanks (c :: cs) = c :: cs := by
  rw [skipBlanks, List.dropWhile_cons_of_neg (by simpa using h)]

theorem chars_whole {n : Int} (range : -0x8000000000000000 ≤ n ∧ n < 0x10000000000000000) :
    ∃ c cs, (Numeric.whole n range).chars = c :: cs ∧ (c.isDigit ∨ c = '-') := by
  rw [Numeric.chars, Numeral.ofInt]
  split
  · exact ⟨'-', _, rfl, Or.inr rfl⟩
  · obtain ⟨c, cs, hcs⟩ := List.exists_cons_of_ne_nil (Numeral.ofNat_ne_nil n.natAbs)
    exact ⟨c, cs, hcs, Or.inl (Numeral.isDigit_of_mem_ofNat (n := n.natAbs) (by simp [hcs]))⟩

theorem readValue_number {c : Char} {cs : List Char} (h : c.isDigit ∨ c = '-') (fuel : Nat) :
    readValue (fuel + 1) (c :: cs) = readNumber (c :: cs) := by
  have hne : ∀ d : Char, d.isDigit = false → d ≠ '-' → c ≠ d := by
    rintro d hd hminus rfl
    rcases h with h | h
    · rw [h] at hd
      cases hd
    · exact hminus h
  have hblank : ¬(c = ' ' ∨ c = '\t' ∨ c = '\n' ∨ c = '\r') := by
    simp [hne ' ' rfl (by decide), hne '\t' rfl (by decide), hne '\n' rfl (by decide),
      hne '\r' rfl (by decide)]
  rw [readValue, skipBlanks_cons hblank]
  split
  all_goals first
    | rfl
    | next heq =>
      obtain ⟨hc, -⟩ := List.cons.inj heq
      exact absurd hc (hne _ rfl (by decide))

/-- **Reading a scalar undoes writing it.** -/
theorem readValue_write {value : Json} (h : Scalar value) (rest : List Char)
    (hrest : EndsNumber rest) (fuel : Nat) :
    readValue (fuel + 1) (value.write ++ rest) = some (value.toTree, rest) := by
  cases h with
  | null => simp [readValue, write, skipBlanks, toTree]
  | bool b => cases b <;> simp [readValue, write, skipBlanks, toTree]
  | text s =>
      rw [write, writeText_append, readValue, skipBlanks_cons (by decide)]
      simp only [readText_escaped, Option.map_some, toTree]
  | whole n range =>
      obtain ⟨c, cs, hcs, hc⟩ := chars_whole range
      have hread := readNumber_chars range hrest
      rw [write, toTree]
      rw [hcs, List.cons_append] at hread ⊢
      rw [readValue_number hc, hread]

theorem endsNumber_cons {c : Char} {cs : List Char} (hdigit : c.isDigit = false) (hpoint : c ≠ '.')
    (he : c ≠ 'e') (hE : c ≠ 'E') : EndsNumber (c :: cs) := by
  intro d ds heq
  obtain ⟨rfl, rfl⟩ := List.cons.inj heq
  exact ⟨hdigit, hpoint, he, hE⟩

theorem readMembers_write {members : List (String × Json)} (hne : members ≠ [])
    (h : ∀ member ∈ members, Scalar member.2) (rest : List Char) {fuel : Nat}
    (hfuel : members.length < fuel) :
    readMembers fuel (writeMembers members ++ '\x7d' :: rest) =
      some (memberTrees members, rest) := by
  induction members generalizing fuel with
  | nil => exact absurd rfl hne
  | cons member members ih =>
      obtain ⟨key, value⟩ := member
      obtain ⟨fuel, rfl⟩ : ∃ n, fuel = n + 2 := ⟨fuel - 2, by simp at hfuel; omega⟩
      have hvalue : Scalar value := h (key, value) (by simp)
      cases members with
      | nil =>
          have hread := readValue_write hvalue ('\x7d' :: rest)
            (endsNumber_cons rfl (by decide) (by decide) (by decide)) fuel
          rw [writeMembers, List.append_assoc, writeText_append, readMembers,
            skipBlanks_cons (by decide)]
          simp only [readText_escaped, List.cons_append, Option.bind_eq_bind, Option.bind_some,
            skipBlanks_cons (c := ':') (by decide), hread,
            skipBlanks_cons (c := '\x7d') (by decide),
            memberTrees]
      | cons next members =>
          have hread := readValue_write hvalue
            (',' :: (writeMembers (next :: members) ++ '\x7d' :: rest))
            (endsNumber_cons rfl (by decide) (by decide) (by decide)) fuel
          have hshorter : (next :: members).length < fuel + 1 := by
            simp only [List.length_cons] at hfuel ⊢
            omega
          have hmembers := ih (by simp) (fun m hm => h m (by simp [hm])) hshorter
          rw [writeMembers, List.append_assoc, writeText_append, readMembers,
            skipBlanks_cons (by decide)]
          · simp only [readText_escaped, List.cons_append, List.append_assoc, Option.bind_eq_bind,
              Option.bind_some, skipBlanks_cons (c := ':') (by decide), hread,
              skipBlanks_cons (c := ',') (by decide), hmembers, Option.map_some, memberTrees]
          · simp

theorem length_le_writeMembers (members : List (String × Json)) :
    members.length ≤ (writeMembers members).length := by
  induction members with
  | nil => simp
  | cons member members ih =>
      obtain ⟨key, value⟩ := member
      cases members with
      | nil =>
          simp only [writeMembers, List.length_cons, List.length_append, List.length_nil]
          omega
      | cons next members =>
          rw [writeMembers]
          · simp only [List.length_cons, List.length_append] at ih ⊢
            omega
          · simp

theorem head_writeMembers {members : List (String × Json)} (hne : members ≠ []) :
    ∃ cs, writeMembers members = '\x22' :: cs := by
  match members with
  | [(key, value)] => exact ⟨_, rfl⟩
  | (key, value) :: next :: members => exact ⟨_, rfl⟩

theorem toJson?_toTree {value : Json} (h : Scalar value) (depth : Nat) :
    value.toTree.toJson? depth = some value := by
  cases h <;> rfl

theorem toMembers?_memberTrees {members : List (String × Json)}
    (h : ∀ member ∈ members, Scalar member.2) (depth : Nat) :
    Tree.toMembers? depth (memberTrees members) = some members := by
  induction members with
  | nil => rfl
  | cons member members ih =>
      obtain ⟨key, value⟩ := member
      have hvalue : Scalar value := h (key, value) (by simp)
      rw [memberTrees, Tree.toMembers?, toJson?_toTree hvalue, ih fun m hm => h m (by simp [hm])]
      rfl

theorem readValue_object {members : List (String × Json)}
    (h : ∀ member ∈ members, Scalar member.2) {fuel : Nat} (hfuel : members.length < fuel) :
    readValue (fuel + 1) (Json.object members).write =
      some (.object (memberTrees members), []) := by
  rw [write, readValue, skipBlanks_cons (by decide)]
  by_cases hne : members = []
  · subst hne
    rfl
  · obtain ⟨cs, hcs⟩ := head_writeMembers hne
    have hmembers := readMembers_write hne h [] hfuel
    rw [hcs] at hmembers ⊢
    simp only [List.cons_append, skipBlanks_cons (c := '\x22') (by decide)] at hmembers ⊢
    change (readMembers fuel ('\x22' :: (cs ++ ['\x7d']))).map _ = _
    rw [hmembers]
    rfl

/-- **An object of scalars is read back as it was written.** -/
theorem read?_render {members : List (String × Json)} (hsorted : Keyed.Sorted members)
    (h : ∀ member ∈ members, Scalar member.2) :
    read? (Json.object members).render = some (.object members) := by
  have hlength := length_le_writeMembers members
  have hfuel : members.length < 2 * (Json.object members).write.length + 1 := by
    rw [write, List.length_cons, List.length_append]
    omega
  have hread : Tree.read? (Json.object members).render = some (.object (memberTrees members)) := by
    rw [Tree.read?, render, String.toList_ofList, readValue_object h hfuel]
    rfl
  rw [read?, hread, Option.bind_some, Tree.toJson?, toMembers?_memberTrees h, Option.map_some,
    ofMembers, Keyed.ofList_of_sorted hsorted]

end Json

end RecordQuery
