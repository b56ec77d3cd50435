import RecordQuery.Proofs.DelimitedText
import RecordQuery.Proofs.OperandKind
import RecordQuery.Proofs.TimestampText
import RecordQuery.Proofs.WholeNumbers

/-!
# Operands as text

The text of an operand tells where it ends and, for a field of a known kind, which operand it is.
There are two exceptions. Numbers of different forms share a text, and beyond the whole numbers that
floating-point numbers represent exactly they may differ. And the source of a pattern stands between
slashes as it is, so that one of its own slashes may look like the closing one.
-/

namespace RecordQuery

open Text (Word Breaks isBreak)

/-! ### Numbers and timestamps -/

open Numeral (IsPart padded)

namespace Number

theorem isPart_of_spelled {n : Number} {negative : Bool} {v : ℚ} (h : n.Spelled negative v) :
    ∀ c ∈ n.text.toList, IsPart c := by
  cases h with
  | signed n =>
      rw [text, String.toList_ofList]
      exact Numeral.isPart_ofInt
  | unsigned n =>
      rw [text, String.toList_ofList]
      exact Numeral.isPart_ofNat
  | @real negative x hx =>
      rw [text, String.toList_ofList, Numeral.plain, if_neg hx]
      split
      · exact List.forall_mem_cons.mpr ⟨Or.inr (by decide), Numeral.isPart_positional⟩
      · exact Numeral.isPart_positional

theorem word_text (n : Number) : Word n.text.toList := by
  rcases spelled_or_named n with ⟨negative, v, hspelled⟩ | hnamed
  · obtain ⟨body, hbody, hspells⟩ := hspelled.text
    obtain ⟨c, rest, rfl, -⟩ := hspells.head
    refine ⟨?_, fun d hd => (isPart_of_spelled hspelled d hd).not_break⟩
    rw [hbody, Numeral.withSign]
    split <;> simp
  · rcases hnamed.text with h | h | h <;> rw [h] <;> exact ⟨by simp, by simp [isBreak]⟩

theorem text_ne_null (n : Number) : n.text ≠ "null" := by
  intro h
  rcases spelled_or_named n with ⟨negative, v, hspelled⟩ | hnamed
  · have hpart := isPart_of_spelled hspelled 'n' (by simp [h])
    revert hpart
    simp [IsPart]
  · rcases hnamed.text with htext | htext | htext <;> simp [h] at htext

end Number

namespace Timestamp

open Time (Date)

theorem isPart_chars (t : Timestamp) : ∀ c ∈ t.chars, IsPart c := by
  cases hcivil : t.civil? with
  | none =>
      rw [chars, hcivil]
      exact Numeral.isPart_ofInt
  | some civil =>
      obtain ⟨date, millis⟩ := civil
      have hpadded : ∀ width n, ∀ c ∈ padded width n, IsPart c := fun _ _ => Numeral.isPart_padded
      have hmark : ∀ c ∈ ['-', '+', '.', 'e', ':', 'T', 'Z'], IsPart c := fun _ => Or.inr
      have hyear : ∀ c ∈ yearChars date.year, IsPart c := by
        rw [yearChars]
        split
        · exact hpadded 4 _
        · refine List.forall_mem_cons.mpr ⟨?_, hpadded 4 _⟩
          split <;> exact hmark _ (by decide)
      rw [chars_of_civil? hcivil]
      refine List.forall_mem_append.mpr ⟨hyear, ?_⟩
      simp only [tail, List.forall_mem_cons, List.forall_mem_append]
      exact ⟨hmark _ (by decide), hpadded 2 _, hmark _ (by decide), hpadded 2 _, hmark _ (by decide),
        hpadded 2 _, hmark _ (by decide), hpadded 2 _, hmark _ (by decide), hpadded 2 _,
        hmark _ (by decide), hpadded 3 _, hmark _ (by decide), by simp⟩

theorem chars_ne_nil (t : Timestamp) : t.chars ≠ [] := by
  cases hcivil : t.civil? with
  | none =>
      rw [chars, hcivil]
      exact Numeral.ofInt_ne_nil _
  | some civil =>
      rw [chars_of_civil? hcivil]
      exact List.append_ne_nil_of_right_ne_nil _ (List.cons_ne_nil _ _)

theorem padded_unique {width m n : Nat} (hwidth : 0 < width) (hm : m < 10 ^ width)
    (hn : n < 10 ^ width) {r s : List Char} (h : padded width m ++ r = padded width n ++ s) :
    m = n ∧ r = s := by
  have hread := Time.digits?_padded width hwidth hm r
  rw [h, Time.digits?_padded width hwidth hn s] at hread
  cases hread
  exact ⟨rfl, rfl⟩

/-- The time of day can be read off the end of a text. -/
theorem millis_unique {date : Date} {m n : Nat} (hm : m < 86400000) (hn : n < 86400000)
    (h : tail date m = tail date n) : m = n := by
  simp only [tail, List.cons.injEq, true_and, List.append_cancel_left_eq] at h
  obtain ⟨hhour, h⟩ := padded_unique (by decide) (by omega) (by omega) h
  obtain ⟨hminute, h⟩ := padded_unique (by decide) (by omega) (by omega) (List.cons.inj h).2
  obtain ⟨hsecond, h⟩ := padded_unique (by decide) (by omega) (by omega) (List.cons.inj h).2
  obtain ⟨hmilli, -⟩ := padded_unique (by decide) (by omega) (by omega) (List.cons.inj h).2
  omega

theorem eq_of_civil? {t u : Timestamp} (hsome : t.civil?.isSome) (h : t.civil? = u.civil?) :
    t = u := by
  obtain ⟨⟨date, millis⟩, ht⟩ := Option.isSome_iff_exists.mp hsome
  obtain ⟨hdate, hmillis, -⟩ := civil?_eq_some.mp ht
  obtain ⟨hdate', hmillis', -⟩ := civil?_eq_some.mp (h.symm.trans ht)
  have hdays : t.millis.toInt / Time.millisPerDay = u.millis.toInt / Time.millisPerDay := by
    rw [← Date.toDays_ofDays (t.millis.toInt / _), ← hdate, hdate', Date.toDays_ofDays]
  have hcount : t.millis.toInt = u.millis.toInt := by
    rw [Time.millisPerDay] at *
    omega
  obtain ⟨t⟩ := t
  obtain ⟨u⟩ := u
  exact congrArg Timestamp.mk (Int64.toInt_inj.mp hcount)

/-- A date with a signed year can be read off the beginning of a text. -/
theorem date?_chars {t : Timestamp} {date : Date} {millis : Nat}
    (h : t.civil? = some (date, millis)) (hyear : ¬(0 ≤ date.year ∧ date.year ≤ 9999)) :
    (Time.date? t.chars).map Prod.fst = some date := by
  obtain ⟨hdate, -, hfirst, hlast⟩ := civil?_eq_some.mp h
  have hvalid : Date.ofNumbers? date.year date.month date.day = some date := by
    rw [hdate] at hfirst hlast ⊢
    exact Date.ofNumbers?_ofDays hfirst hlast
  rw [chars_of_civil? h, tail,
    date?_signed hyear hvalid (hdate ▸ Date.month_ofDays _) (hdate ▸ Date.day_ofDays _)]
  rfl

/-- **Timestamps are told apart by their texts**, also those that cannot be read back. -/
theorem chars_injective : Function.Injective chars := by
  intro t u h
  have hread := ofChars?_chars t
  rw [h, ofChars?_chars u] at hread
  by_cases ht : t.Readable
  · by_cases hu : u.Readable
    · simpa [ht, hu] using hread.symm
    · simp [ht, hu] at hread
  · by_cases hu : u.Readable
    · simp [ht, hu] at hread
    · simp only [Readable, Option.mem_def, Option.map_eq_some_iff, Prod.exists, not_forall] at ht hu
      obtain ⟨date, ⟨_, m, hcivil, rfl⟩, hyear⟩ := ht
      obtain ⟨date', ⟨_, n, hcivil', rfl⟩, hyear'⟩ := hu
      have hdate := date?_chars hcivil hyear
      rw [h, date?_chars hcivil' hyear'] at hdate
      cases hdate
      have htail := h
      rw [chars_of_civil? hcivil, chars_of_civil? hcivil'] at htail
      have hbound : ∀ {t : Timestamp} {date : Date} {millis : Nat},
          t.civil? = some (date, millis) → millis < 86400000 := by
        intro t date millis hcivil
        rw [(civil?_eq_some.mp hcivil).2.1, Time.millisPerDay]
        omega
      have hmillis := millis_unique (hbound hcivil) (hbound hcivil')
        (List.append_cancel_left htail)
      subst hmillis
      exact eq_of_civil? (by rw [hcivil]; rfl) (hcivil.trans hcivil'.symm)

end Timestamp

/-! ### Identifiers, positions and truth values -/

theorem Text.hexDigit_in_word : ∀ n < 16, isBreak (hexDigit n) = false ∧ hexDigit n ≠ 'n' := by
  decide

namespace Uuid

theorem chars_injective : Function.Injective chars := by
  intro u v h
  have hread := ofChars?_chars u
  rw [h, ofChars?_chars] at hread
  exact (Option.some.inj hread).symm

theorem in_word_of_mem_chars {u : Uuid} {c : Char} (h : c ∈ u.chars) :
    isBreak c = false ∧ c ≠ 'n' := by
  rcases mem_chars h with h | rfl
  · obtain ⟨i, -, rfl⟩ := List.mem_map.mp h
    exact Text.hexDigit_in_word _ (Nat.mod_lt _ (by decide))
  · decide

end Uuid

/-! ### Patterns -/

/-- The characters that can follow a filter in a longer text. -/
def Filter.followers : List Char :=
  [' ', ')', '\x7d', '~']

/-- The source of the one begins like the source of the other with the closing slash and what can
follow a filter. -/
def Pattern.Overruns (p q : Pattern) : Prop :=
  ∃ c ∈ Filter.followers, q.source.toList ++ ['/', c] <+: p.source.toList

instance (p q : Pattern) : Decidable (p.Overruns q) := by
  unfold Pattern.Overruns
  infer_instance

/-- **The source of a pattern ends at its closing slash**, unless one of the two sources overruns
the other. -/
theorem Pattern.unique {p q : Pattern} (hp : ¬p.Overruns q) (hq : ¬q.Overruns p)
    {r s : List Char} (hr : ∀ c ∈ r.head?, c ∈ Filter.followers) (hs : ∀ c ∈ s.head?, c ∈ Filter.followers)
    (h : p.source.toList ++ '/' :: r = q.source.toList ++ '/' :: s) : p = q ∧ r = s := by
  -- one source begins the other one; if more follows in it, then first of all the closing slash
  wlog hshort : ∃ more, q.source.toList = p.source.toList ++ more ∧ '/' :: r = more ++ '/' :: s
    generalizing p q r s
  · rcases List.append_eq_append_iff.mp h with hmore | ⟨more, hsource, hrest⟩
    · exact absurd hmore hshort
    · obtain ⟨hsame, hend⟩ := this hq hp hs hr h.symm ⟨more, hsource, hrest⟩
      exact ⟨hsame.symm, hend.symm⟩
  obtain ⟨more, hsource, hrest⟩ := hshort
  match more with
  | [] =>
      rw [List.append_nil] at hsource
      exact ⟨Pattern.ext_source (String.toList_inj.mp hsource.symm), (List.cons.inj hrest).2⟩
  | [c] =>
      obtain ⟨rfl, rfl⟩ := List.cons.inj hrest
      exact absurd (hr '/' rfl) (by decide)
  | c :: d :: more =>
      obtain ⟨rfl, rfl⟩ := List.cons.inj hrest
      exact absurd ⟨d, hr d rfl, more, by rw [hsource]; simp⟩ hq

/-! ### Operands -/

namespace Operand

/-- In a longer text the one operand can be taken for the other. -/
def clashes : Operand → Operand → Bool
  | .number m, .number n => m.Clashes n
  | .pattern p, .pattern q => p.Overruns q ∨ q.Overruns p
  | _, _ => false

/-- No operand of the one list clashes with one of the other. -/
def Apart (as bs : List Operand) : Prop :=
  ∀ a ∈ as, ∀ b ∈ bs, a.clashes b = false

instance (as bs : List Operand) : Decidable (Apart as bs) := by
  unfold Apart
  infer_instance

/-- The candidates of a set, or the operand alone. -/
def scalars : Operand → List Operand
  | .set items => items
  | a => [a]

/-- Every comparison with the one is a comparison with the other. -/
inductive Alike : Operand → Operand → Prop
  | refl (a : Operand) : Alike a a
  | number {m n : Number} (h : ∀ k : Number, k.compare? m = k.compare? n) :
      Alike (.number m) (.number n)
  | set {as bs : List Operand} (h : List.Forall₂ Alike as bs) : Alike (.set as) (.set bs)

section OfKind

variable {kind : Kind} {m n : Bool} {a b : Operand} {r s : List Char}

theorem OfKind.scalars (h : a.OfKind kind m) : a.scalars = [a] := by
  cases h <;> rfl

/-- The text of a scalar that is no text is a word, and it is `null` for nothing but null. -/
theorem OfKind.word (h : a.OfKind kind m) (hkind : kind ≠ .text) :
    Word a.describe.toList ∧ (a.describe = "null" → a = .null) := by
  cases h with
  | text => exact absurd rfl hkind
  | number n => exact ⟨n.word_text, fun h => absurd h n.text_ne_null⟩
  | timestamp t =>
      have hchars : (describe (.timestamp t)).toList = t.chars := String.toList_ofList
      refine ⟨⟨hchars ▸ t.chars_ne_nil, hchars ▸ fun c hc => (t.isPart_chars c hc).not_break⟩,
        fun h => ?_⟩
      have hpart := t.isPart_chars 'n' (by rw [← hchars, h]; simp)
      simp [IsPart] at hpart
  | uuid u =>
      have hchars : (describe (.uuid u)).toList = u.chars := String.toList_ofList
      refine ⟨⟨hchars ▸ List.ne_nil_of_length_eq_add_one rfl,
        hchars ▸ fun c hc => (Uuid.in_word_of_mem_chars hc).1⟩, fun h => ?_⟩
      have hmem : 'n' ∈ u.chars := by rw [← hchars, h]; simp
      exact absurd rfl (Uuid.in_word_of_mem_chars hmem).2
  | @enumeration _ _ index _ =>
      have hchars : (describe (.enumeration index)).toList = '#' :: Numeral.ofNat index.toNat := by
        simp [describe]
      refine ⟨⟨by simp [hchars], ?_⟩, fun h => by simp [h] at hchars⟩
      rw [hchars]
      exact List.forall_mem_cons.mpr ⟨rfl, fun c hc => (Numeral.isPart_ofNat c hc).not_break⟩
  | bool b => cases b <;> exact ⟨⟨by simp [describe], by simp [describe, isBreak]⟩, by simp [describe]⟩
  | null => exact ⟨⟨by simp [describe], by simp [describe, isBreak]⟩, fun _ => rfl⟩

theorem OfKind.alike_of_describe (ha : a.OfKind kind m) (hb : b.OfKind kind n)
    (hkind : kind ≠ .text) (hclash : a.clashes b = false) (h : a.describe = b.describe) :
    a.Alike b := by
  have hnull := (ha.word hkind).2
  have hnull' := (hb.word hkind).2
  cases ha with
  | text => exact absurd rfl hkind
  | null =>
      rw [hnull' h.symm]
      exact .refl _
  | number m =>
      cases hb with
      | number n => exact .number (Number.compare?_eq_of_text (of_decide_eq_false hclash) h)
      | null => cases hnull h
  | timestamp t =>
      cases hb with
      | timestamp u =>
          cases Timestamp.chars_injective (String.ofList_injective h)
          exact .refl _
      | null => cases hnull h
  | uuid u =>
      cases hb with
      | uuid v =>
          cases Uuid.chars_injective (String.ofList_injective h)
          exact .refl _
      | null => cases hnull h
  | enumeration =>
      cases hb with
      | enumeration =>
          simp only [describe, String.append_right_inj] at h
          cases UInt32.toNat_inj.mp (Numeral.ofNat_injective (String.ofList_injective h))
          exact .refl _
      | null => cases hnull h
  | bool b =>
      cases hb with
      | bool c =>
          obtain rfl : b = c := by cases b <;> cases c <;> simp [describe] at h ⊢
          exact .refl _
      | null => cases hnull h

/-- **The text of a scalar of a known kind tells where it ends and which scalar it is.** -/
theorem OfKind.unique (ha : a.OfKind kind m) (hb : b.OfKind kind n) (hclash : a.clashes b = false)
    (hr : Breaks r) (hs : Breaks s)
    (h : a.describe.toList ++ r = b.describe.toList ++ s) : a.Alike b ∧ r = s := by
  by_cases hkind : kind = .text
  · subst hkind
    cases ha with
    | text x =>
        cases hb with
        | text y =>
            obtain ⟨rfl, hend⟩ := Text.quote_unique h
            exact ⟨.refl _, hend⟩
        | null => simp [describe, Text.quote, Text.quoteChars] at h
    | null =>
        cases hb with
        | text y => simp [describe, Text.quote, Text.quoteChars] at h
        | null => exact ⟨.refl _, List.append_cancel_left h⟩
  · obtain ⟨hdescribe, hend⟩ := (ha.word hkind).1.unique (hb.word hkind).1 hr hs h
    exact ⟨ha.alike_of_describe hb hkind hclash (String.toList_inj.mp hdescribe), hend⟩

theorem OfKind.ne_bracket (h : a.OfKind kind m) : a.describe.toList ++ r ≠ ']' :: s := by
  by_cases hkind : kind = .text
  · subst hkind
    cases h <;> simp [describe, Text.quote, Text.quoteChars]
  · have hword := (h.word hkind).1
    obtain ⟨c, cs, hchars⟩ := List.exists_cons_of_ne_nil hword.nonempty
    intro heq
    rw [hchars] at heq hword
    cases heq
    cases hword.unbroken ']' (by simp)

end OfKind

/-! ### Candidates -/

theorem describeItems_eq (items : List Operand) :
    (describeItems items).toList =
      List.intercalate [',', ' '] (items.map fun item => item.describe.toList) :=
  Text.eq_intercalate (f := fun items => (describeItems items).toList) rfl
    (fun _ => by rw [describeItems]) (fun _ _ _ => by simp [describeItems]) items

section Candidates

variable {kind : Kind} {m n : Bool} {as bs : List Operand} {r s : List Char}

/-- **The text of candidates tells which they are**, one by one. -/
theorem describeItems_unique (has : ∀ a ∈ as, a.OfKind kind m) (hbs : ∀ b ∈ bs, b.OfKind kind n)
    (hapart : Apart as bs)
    (h : (describeItems as).toList ++ ']' :: r = (describeItems bs).toList ++ ']' :: s) :
    List.Forall₂ Alike as bs ∧ r = s := by
  rw [describeItems_eq, describeItems_eq] at h
  refine Text.bracketed_unique Breaks (fun a ha b hb x y hx hy => ?_)
    (fun _ => Text.breaks_cons.mpr rfl) (fun _ => Text.breaks_cons.mpr rfl) (by simp)
    (fun a ha x y => (has a ha).ne_bracket) (fun b hb x y => (hbs b hb).ne_bracket) h
  exact (has a ha).unique (hbs b hb) (hapart a ha b hb) hx hy

end Candidates

end Operand

end RecordQuery
