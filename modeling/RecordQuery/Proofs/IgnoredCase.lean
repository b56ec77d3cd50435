import Mathlib
import RecordQuery.Proofs.ReachableText

/-!
# Ignoring case

The lower-case form of a text depends on its place in a longer text at capital sigmas only: a sigma
is final if a cased letter stands before it and none after it, case-ignorable characters aside. A
part of a text is therefore found again in the lower-case form of the text unless a sigma at one of
its ends changes. Ignoring case widens a comparison exactly for the parts without such a sigma.
-/

namespace RecordQuery.Text

/-! ### Stretches of a text -/

/-- Lower-cases a stretch between what stands before it, the nearest first, and after it. -/
def lowerWithin (before : List Char) : List Char → List Char → List Char
  | [], _ => []
  | c :: cs, after =>
    (if c = 'Σ' then [lowerSigma before (cs ++ after)] else lowerChar c) ++
      lowerWithin (c :: before) cs after

theorem lowerFrom_append (before cs after : List Char) :
    lowerFrom before (cs ++ after) =
      lowerWithin before cs after ++ lowerFrom (cs.reverse ++ before) after := by
  induction cs generalizing before with
  | nil => rfl
  | cons c cs ih => simp [lowerFrom, lowerWithin, ih]

theorem lowerChars_eq (cs : List Char) : lowerChars cs = lowerWithin [] cs [] := by
  simpa [lowerFrom, lowerChars] using lowerFrom_append [] cs []

theorem lowerChars_append (cs after : List Char) :
    lowerChars (cs ++ after) = lowerWithin [] cs after ++ lowerFrom cs.reverse after := by
  simpa [lowerChars] using lowerFrom_append [] cs after

theorem lowerChars_around (before cs after : List Char) :
    lowerChars (before ++ cs ++ after) = lowerWithin [] before (cs ++ after) ++
      (lowerWithin before.reverse cs after ++ lowerFrom (cs.reverse ++ before.reverse) after) := by
  rw [List.append_assoc, lowerChars_append, lowerFrom_append]

theorem lowerWithin_append (before cs ds after : List Char) :
    lowerWithin before (cs ++ ds) after =
      lowerWithin before cs (ds ++ after) ++ lowerWithin (cs.reverse ++ before) ds after := by
  induction cs generalizing before with
  | nil => rfl
  | cons c cs ih => simp [lowerWithin, ih]

/-- Two places at which all sigmas take the same forms lower-case a stretch alike. -/
theorem lowerWithin_congr {b b' cs a a' : List Char}
    (h : ∀ u v, cs = u ++ 'Σ' :: v →
      lowerSigma (u.reverse ++ b) (v ++ a) = lowerSigma (u.reverse ++ b') (v ++ a')) :
    lowerWithin b cs a = lowerWithin b' cs a' := by
  induction cs generalizing b b' with
  | nil => rfl
  | cons c cs ih =>
      have hrest : lowerWithin (c :: b) cs a = lowerWithin (c :: b') cs a' :=
        ih fun u v hcs => by simpa using h (c :: u) v (by simp [hcs])
      rw [lowerWithin, lowerWithin, hrest]
      split
      next hc => rw [← List.nil_append b, ← List.nil_append b', ← List.reverse_nil,
        h [] cs (by simp [hc])]
      next => rfl

/-! ### Letters around a sigma -/

section

variable {xs ys : List Char}

theorem meetsCased_of_ignorable (h : ∀ c ∈ xs, caseIgnorable.has c = true) :
    meetsCased xs = false := by
  rw [meetsCased, List.dropWhile_eq_nil_iff.mpr h]

theorem meetsCased_append_of_ignorable (h : ∀ c ∈ xs, caseIgnorable.has c = true) :
    meetsCased (xs ++ ys) = meetsCased ys := by
  rw [meetsCased, meetsCased, List.dropWhile_append_of_pos h]

theorem exists_of_meetsCased (h : meetsCased xs = true) :
    ∃ c ∈ xs, caseIgnorable.has c = false := by
  by_contra hnone
  rw [meetsCased_of_ignorable (by simpa using hnone)] at h
  cases h

/-- Only the first character that is not case-ignorable matters. -/
theorem meetsCased_append {c : Char} (hc : c ∈ xs) (hnot : caseIgnorable.has c = false)
    (ys : List Char) : meetsCased (xs ++ ys) = meetsCased xs := by
  induction xs with
  | nil => cases hc
  | cons d xs ih =>
      by_cases hd : caseIgnorable.has d = true
      · have hmem : c ∈ xs := by
          rcases List.mem_cons.mp hc with rfl | hmem
          · rw [hd] at hnot
            cases hnot
          · exact hmem
        have h := ih hmem
        simpa [meetsCased, hd] using h
      · simp [meetsCased, hd]

theorem meetsCased_append_of_meets (h : meetsCased xs = true) : meetsCased (xs ++ ys) = true := by
  obtain ⟨c, hc, hnot⟩ := exists_of_meetsCased h
  rw [meetsCased_append hc hnot, h]

end

theorem not_ignorable_sigma : caseIgnorable.has 'Σ' = false := by decide +kernel

theorem sigma_notMem {cs : List Char} (h : ∀ c ∈ cs, caseIgnorable.has c = true) : 'Σ' ∉ cs := by
  intro hmem
  have hsigma := h 'Σ' hmem
  rw [not_ignorable_sigma] at hsigma
  cases hsigma

/-- What stands beyond a sigma does not matter to a character on this side of it. -/
theorem meetsCased_beyond_sigma (xs ys zs : List Char) :
    meetsCased (xs ++ 'Σ' :: ys) = meetsCased (xs ++ 'Σ' :: zs) := by
  have hmem : 'Σ' ∈ xs ++ ['Σ'] := by simp
  have hbeyond : ∀ ws, meetsCased (xs ++ 'Σ' :: ws) = meetsCased (xs ++ ['Σ']) := fun ws => by
    simpa using meetsCased_append hmem not_ignorable_sigma ws
  rw [hbeyond ys, hbeyond zs]

/-- Lower-casing a stretch in front of a sigma does not depend on what follows the sigma. -/
theorem lowerWithin_before_sigma (before cs ys zs : List Char) :
    lowerWithin before cs ('Σ' :: ys) = lowerWithin before cs ('Σ' :: zs) := by
  refine lowerWithin_congr fun u v _ => ?_
  rw [lowerSigma, lowerSigma, meetsCased_beyond_sigma v ys zs]

theorem lowerWithin_after_sigma (ys zs cs after : List Char) :
    lowerWithin ('Σ' :: ys) cs after = lowerWithin ('Σ' :: zs) cs after := by
  refine lowerWithin_congr fun u v _ => ?_
  rw [lowerSigma, lowerSigma, meetsCased_beyond_sigma u.reverse ys zs]

/-- A sigma parts a stretch: only its own form depends on both sides. -/
theorem lowerWithin_around_sigma (before u v after : List Char) :
    lowerWithin before (u ++ 'Σ' :: v) after = lowerWithin before u ['Σ'] ++
      lowerSigma (u.reverse ++ before) (v ++ after) :: lowerWithin ['Σ'] v after := by
  rw [lowerWithin_append, List.cons_append, lowerWithin_before_sigma before u (v ++ after) [],
    lowerWithin, if_pos rfl, lowerWithin_after_sigma (u.reverse ++ before) []]
  rfl

/-- Case-ignorable characters are lower-cased alike everywhere. -/
theorem lowerWithin_of_ignorable {cs : List Char} (h : ∀ c ∈ cs, caseIgnorable.has c = true)
    (b b' a a' : List Char) : lowerWithin b cs a = lowerWithin b' cs a' := by
  refine lowerWithin_congr fun u v hcs => absurd ?_ (sigma_notMem h)
  simp [hcs]

/-! ### Sigmas at the ends of a part -/

/-- The first character that is not case-ignorable is a capital sigma, and no cased letter comes
next: behind a letter the sigma would be final. -/
def opensOnSigma (part : List Char) : Bool :=
  match part.dropWhile caseIgnorable.has with
  | 'Σ' :: after => !meetsCased after
  | _ => false

/-- The last character that is not case-ignorable is a capital sigma, and a cased letter comes
before it: the sigma is final unless another letter follows. -/
def closesOnSigma (part : List Char) : Bool :=
  match part.reverse.dropWhile caseIgnorable.has with
  | 'Σ' :: before => meetsCased before
  | _ => false

theorem opensOnSigma_iff {part : List Char} :
    opensOnSigma part = true ↔ ∃ u v, part = u ++ 'Σ' :: v ∧
      (∀ c ∈ u, caseIgnorable.has c = true) ∧ meetsCased v = false := by
  constructor
  · intro h
    rw [opensOnSigma] at h
    split at h
    next after hdrop =>
      refine ⟨part.takeWhile caseIgnorable.has, after, ?_, ?_, by simpa using h⟩
      · rw [← hdrop, List.takeWhile_append_dropWhile]
      · exact fun c hc => List.mem_takeWhile_imp hc
    next => cases h
  · rintro ⟨u, v, rfl, hu, hv⟩
    rw [opensOnSigma, List.dropWhile_append_of_pos hu,
      List.dropWhile_cons_of_neg (by simp [not_ignorable_sigma])]
    simp [hv]

theorem closesOnSigma_iff {part : List Char} :
    closesOnSigma part = true ↔ ∃ u v, part = u ++ 'Σ' :: v ∧
      (∀ c ∈ v, caseIgnorable.has c = true) ∧ meetsCased u.reverse = true := by
  constructor
  · intro h
    rw [closesOnSigma] at h
    split at h
    next before hdrop =>
      refine ⟨before.reverse, (part.reverse.takeWhile caseIgnorable.has).reverse, ?_, ?_, by
        simpa using h⟩
      · have hsplit := List.takeWhile_append_dropWhile (p := caseIgnorable.has) (l := part.reverse)
        rw [hdrop] at hsplit
        simpa using (congrArg List.reverse hsplit).symm
      · exact fun c hc => List.mem_takeWhile_imp (List.mem_reverse.mp hc)
    next => cases h
  · rintro ⟨u, v, rfl, hv, hu⟩
    rw [closesOnSigma, List.reverse_append, List.reverse_cons, List.append_assoc,
      List.dropWhile_append_of_pos (by simpa using hv), List.singleton_append,
      List.dropWhile_cons_of_neg (by simp [not_ignorable_sigma])]
    exact hu

/-- **A part keeps its lower-case form** in a place where neither a cased letter stands before a
sigma that opens it nor after a sigma that closes it. -/
theorem lowerWithin_eq {before part after : List Char}
    (hopen : opensOnSigma part = true → meetsCased before = false)
    (hclose : closesOnSigma part = true → meetsCased after = false) :
    lowerWithin before part after = lowerChars part := by
  rw [lowerChars_eq]
  refine lowerWithin_congr fun u v hpart => ?_
  rw [lowerSigma, lowerSigma, List.append_nil, List.append_nil]
  by_cases hu : ∀ c ∈ u, caseIgnorable.has c = true
  · -- nothing in the part decides what stands before the sigma
    have hreverse : ∀ c ∈ u.reverse, caseIgnorable.has c = true := by simpa using hu
    rw [meetsCased_append_of_ignorable hreverse, meetsCased_of_ignorable hreverse, Bool.false_and]
    cases hv : meetsCased v with
    | true => rw [meetsCased_append_of_meets hv, Bool.not_true, Bool.and_false]
    | false => rw [hopen (opensOnSigma_iff.mpr ⟨u, v, hpart, hu, hv⟩), Bool.false_and]
  · obtain ⟨c, hc, hnot⟩ : ∃ c ∈ u.reverse, caseIgnorable.has c = false := by simpa using hu
    rw [meetsCased_append hc hnot]
    by_cases hv : ∀ c ∈ v, caseIgnorable.has c = true
    · rw [meetsCased_append_of_ignorable hv, meetsCased_of_ignorable hv]
      cases hmeets : meetsCased u.reverse with
      | true => rw [hclose (closesOnSigma_iff.mpr ⟨u, v, hpart, hv, hmeets⟩)]
      | false => rfl
    · obtain ⟨d, hd, hnot⟩ : ∃ d ∈ v, caseIgnorable.has d = false := by simpa using hv
      rw [meetsCased_append hd hnot]

/-! ### Sigmas that change -/

theorem not_infix_of_count_lt {as bs : List Char} {c : Char} (h : bs.count c < as.count c) :
    ¬ as <:+: bs := by
  intro hwithin
  exact absurd (hwithin.sublist.count_le c) (Nat.not_le.mpr h)

theorem meetsCased_letter : meetsCased ['Α'] = true := by decide +kernel

theorem lowerChar_letter : lowerChar 'Α' = ['α'] := by decide +kernel

/-- A sigma that closes a part is not final any more when a letter follows. -/
theorem not_infix_of_closesOnSigma {part : List Char} (h : closesOnSigma part = true) :
    ¬ lowerChars part <:+: lowerChars (part ++ ['Α']) := by
  obtain ⟨u, v, rfl, hv, hu⟩ := closesOnSigma_iff.mp h
  have halone : lowerChars (u ++ 'Σ' :: v) =
      lowerWithin [] u ['Σ'] ++ 'ς' :: lowerWithin ['Σ'] v [] := by
    rw [lowerChars_eq, lowerWithin_around_sigma, List.append_nil, List.append_nil, lowerSigma, hu,
      meetsCased_of_ignorable hv]
    rfl
  have hlonger : lowerChars (u ++ 'Σ' :: v ++ ['Α']) =
      lowerWithin [] u ['Σ'] ++ 'σ' :: lowerWithin ['Σ'] v [] ++ ['α'] := by
    rw [lowerChars_append, lowerWithin_around_sigma, lowerSigma, meetsCased_append_of_ignorable hv,
      meetsCased_letter, Bool.not_true, Bool.and_false,
      lowerWithin_of_ignorable hv ['Σ'] ['Σ'] ['Α'] [], lowerFrom, if_neg (by decide),
      lowerChar_letter]
    rfl
  have hcount : (lowerChars (u ++ 'Σ' :: v ++ ['Α'])).count 'ς' <
      (lowerChars (u ++ 'Σ' :: v)).count 'ς' := by
    rw [halone, hlonger]
    simp
  exact not_infix_of_count_lt hcount

/-- A sigma that opens a part, and no letter comes next, is final behind a letter. -/
theorem not_infix_of_opensOnSigma {part : List Char} (h : opensOnSigma part = true) :
    ¬ lowerChars part <:+: lowerChars ('Α' :: part) := by
  obtain ⟨u, v, rfl, hu, hv⟩ := opensOnSigma_iff.mp h
  have hreverse : ∀ c ∈ u.reverse, caseIgnorable.has c = true := by simpa using hu
  have halone : lowerChars (u ++ 'Σ' :: v) =
      lowerWithin [] u ['Σ'] ++ 'σ' :: lowerWithin ['Σ'] v [] := by
    rw [lowerChars_eq, lowerWithin_around_sigma, List.append_nil, lowerSigma,
      meetsCased_of_ignorable hreverse]
    rfl
  have hlonger : lowerChars ('Α' :: (u ++ 'Σ' :: v)) =
      'α' :: (lowerWithin [] u ['Σ'] ++ 'ς' :: lowerWithin ['Σ'] v []) := by
    rw [lowerChars_eq, lowerWithin, if_neg (by decide), lowerChar_letter, lowerWithin_around_sigma,
      lowerSigma, meetsCased_append_of_ignorable hreverse, meetsCased_letter, List.append_nil, hv,
      lowerWithin_of_ignorable hu ['Α'] [] ['Σ'] ['Σ']]
    rfl
  have hcount : (lowerChars ('Α' :: (u ++ 'Σ' :: v))).count 'σ' <
      (lowerChars (u ++ 'Σ' :: v)).count 'σ' := by
    rw [halone, hlonger]
    simp
  exact not_infix_of_count_lt hcount

/-! ### Parts of a text in lower case -/

section

variable {part before after : List Char}

theorem prefix_lowerChars (hclose : closesOnSigma part = false) :
    lowerChars part <+: lowerChars (part ++ after) := by
  have hpart : lowerWithin [] part after = lowerChars part :=
    lowerWithin_eq (fun _ => rfl) fun h => by simp [hclose] at h
  rw [lowerChars_append, hpart]
  exact List.prefix_append _ _

theorem suffix_lowerChars (hopen : opensOnSigma part = false) :
    lowerChars part <:+ lowerChars (before ++ part) := by
  have hpart : lowerWithin before.reverse part [] = lowerChars part :=
    lowerWithin_eq (fun h => by simp [hopen] at h) fun _ => rfl
  rw [lowerChars_eq (before ++ part), lowerWithin_append, List.append_nil before.reverse, hpart]
  exact List.suffix_append _ _

theorem infix_lowerChars (hopen : opensOnSigma part = false) (hclose : closesOnSigma part = false) :
    lowerChars part <:+: lowerChars (before ++ part ++ after) := by
  have hpart : lowerWithin before.reverse part after = lowerChars part :=
    lowerWithin_eq (fun h => by simp [hopen] at h) fun h => by simp [hclose] at h
  rw [lowerChars_around, hpart, ← List.append_assoc]
  exact List.infix_append _ _ _

end

end RecordQuery.Text

namespace RecordQuery

open Text (opensOnSigma closesOnSigma)

/-! ### Clauses -/

namespace Clause

/-- A text in the form in which it is compared. -/
def compared (ignoreCase : Bool) (s : String) : List Char :=
  if ignoreCase then Text.lowerChars s.toList else s.toList

variable {field : Option String} {part s : String} {ignoreCase : Bool}

theorem holds_startsWith_iff :
    holds ⟨field, .startsWith, .text part, ignoreCase⟩ (.text s) = true ↔
      compared ignoreCase part <+: compared ignoreCase s := by
  cases ignoreCase <;> exact List.isPrefixOf_iff_prefix

theorem holds_endsWith_iff :
    holds ⟨field, .endsWith, .text part, ignoreCase⟩ (.text s) = true ↔
      compared ignoreCase part <:+ compared ignoreCase s := by
  cases ignoreCase <;> exact List.isSuffixOf_iff_suffix

theorem holds_contains_text_iff :
    holds ⟨field, .contains, .text part, ignoreCase⟩ (.text s) = true ↔
      compared ignoreCase part <:+: compared ignoreCase s := by
  cases ignoreCase <;> exact containsPart_iff

end Clause

/-- Every text that satisfies the comparison with a part still does when case is ignored. -/
def Op.Widens (op : Op) (part : String) : Prop :=
  ∀ (field : Option String) (s : String),
    Clause.holds ⟨field, op, .text part, false⟩ (.text s) = true →
      Clause.holds ⟨field, op, .text part, true⟩ (.text s) = true

namespace Op

variable {part : String}

theorem eq_widens (part : String) : eq.Widens part := by
  intro field s h
  have hsame : compare s part = .eq := by simpa [Clause.holds, Clause.equals] using h
  obtain rfl : s = part := by simpa using hsame
  simp [Clause.holds, Clause.equals]

theorem widens_iff_forall {op : Op} {stands : List Char → List Char → Prop}
    (h : ∀ field s ignoreCase, Clause.holds ⟨field, op, .text part, ignoreCase⟩ (.text s) = true ↔
      stands (Clause.compared ignoreCase part) (Clause.compared ignoreCase s)) :
    op.Widens part ↔ ∀ cs, stands part.toList cs →
      stands (Text.lowerChars part.toList) (Text.lowerChars cs) := by
  constructor
  · intro hwidens cs hcs
    have hlower := hwidens none (String.ofList cs)
    rw [h, h] at hlower
    simpa [Clause.compared] using hlower (by simpa [Clause.compared] using hcs)
  · intro hlower field s hs
    rw [h] at hs ⊢
    exact hlower s.toList hs

theorem startsWith_widens_iff : startsWith.Widens part ↔ closesOnSigma part.toList = false := by
  rw [widens_iff_forall fun _ _ _ => Clause.holds_startsWith_iff]
  constructor
  · intro h
    by_contra hclose
    have hprefix := h (part.toList ++ ['Α']) (List.prefix_append _ _)
    exact Text.not_infix_of_closesOnSigma (by simpa using hclose) hprefix.isInfix
  · rintro hclose cs ⟨after, rfl⟩
    exact Text.prefix_lowerChars hclose

theorem endsWith_widens_iff : endsWith.Widens part ↔ opensOnSigma part.toList = false := by
  rw [widens_iff_forall fun _ _ _ => Clause.holds_endsWith_iff]
  constructor
  · intro h
    by_contra hopen
    have hsuffix := h ('Α' :: part.toList) (List.suffix_cons _ _)
    exact Text.not_infix_of_opensOnSigma (by simpa using hopen) hsuffix.isInfix
  · rintro hopen cs ⟨before, rfl⟩
    exact Text.suffix_lowerChars hopen

theorem contains_widens_iff :
    contains.Widens part ↔ opensOnSigma part.toList = false ∧ closesOnSigma part.toList = false := by
  rw [widens_iff_forall fun _ _ _ => Clause.holds_contains_text_iff]
  constructor
  · intro h
    constructor
    · by_contra hopen
      have hwithin := h ('Α' :: part.toList) (List.suffix_cons _ _).isInfix
      exact Text.not_infix_of_opensOnSigma (by simpa using hopen) hwithin
    · by_contra hclose
      have hwithin := h (part.toList ++ ['Α']) (List.prefix_append _ _).isInfix
      exact Text.not_infix_of_closesOnSigma (by simpa using hclose) hwithin
  · rintro ⟨hopen, hclose⟩ cs ⟨before, after, rfl⟩
    exact Text.infix_lowerChars hopen hclose

end Op

/-! ### Searches -/

/-- Every record with the keyword, as it is written, in a searched field is found. -/
def Search.Thorough (keyword : String) : Prop :=
  ∀ (schema : Schema) (names : Option (List String)) (depth : Int) (f : Filter),
    Search.compile schema keyword names depth = .ok f →
      ∀ path ∈ Search.targets schema names depth.toNat, ∀ r,
        (Filter.atPath path .contains (.text keyword) false).accepts r = true → f.accepts r = true

namespace Letter

def body : Field where
  name := "body"
  kind := .text

def schema : Schema := ⟨[], ⟨"Letter", [body]⟩⟩

def record (s : String) : Record := [("body", .text s)]

theorem accepts_body {part s : String} {ignoreCase : Bool} :
    (Filter.atPath ⟨[], body⟩ .contains (.text part) ignoreCase).accepts (record s) =
      Clause.holds ⟨none, .contains, .text part, ignoreCase⟩ (.text s) := by
  rw [Filter.accepts, Filter.atPath_nil, if_neg (by decide), Filter.holds, Subject.read,
    Record.readPath_name (by decide)]
  rfl

end Letter

theorem Search.thorough_iff {keyword : String} :
    Search.Thorough keyword ↔ Op.contains.Widens keyword := by
  constructor
  · intro h field s hs
    have htargets : Search.targets Letter.schema none 0 = [⟨[], Letter.body⟩] := rfl
    obtain ⟨f, hf⟩ : ∃ f, Search.compile Letter.schema keyword none 0 = .ok f := ⟨_, rfl⟩
    have haccepts := h Letter.schema none 0 f hf ⟨[], Letter.body⟩ (by simp [htargets])
      (Letter.record s) (Letter.accepts_body.trans hs)
    rw [Search.accepts_iff_target hf, Int.toNat_zero, htargets] at haccepts
    obtain ⟨path, hpath, hfound⟩ := haccepts
    rw [List.mem_singleton.mp hpath, Letter.accepts_body] at hfound
    exact hfound
  · intro h schema names depth f hf path hpath r hr
    obtain ⟨value, hfinds, hvalue⟩ := (Filter.accepts_atPath rfl fun _ => rfl).mp hr
    refine (Search.accepts_iff_target hf r).mpr ⟨path, hpath, ?_⟩
    refine (Filter.accepts_atPath rfl fun _ => rfl).mpr ⟨value, hfinds, ?_⟩
    cases value with
    | text s => exact h none s hvalue
    | _ => exact hvalue

/-- **Ignoring case widens a comparison** with every part of a text that no capital sigma closes or
opens, and with no other part: equality always, a prefix unless a sigma closes it, a suffix unless
one opens it, a stretch and the keyword of a search unless one does either. -/
theorem Clause.ignoring_case_widens_iff (part : String) :
    Op.eq.Widens part ∧
      (Op.startsWith.Widens part ↔ closesOnSigma part.toList = false) ∧
      (Op.endsWith.Widens part ↔ opensOnSigma part.toList = false) ∧
      (Op.contains.Widens part ↔
        opensOnSigma part.toList = false ∧ closesOnSigma part.toList = false) ∧
      (Search.Thorough part ↔
        opensOnSigma part.toList = false ∧ closesOnSigma part.toList = false) :=
  ⟨Op.eq_widens part, Op.startsWith_widens_iff, Op.endsWith_widens_iff, Op.contains_widens_iff,
    Search.thorough_iff.trans Op.contains_widens_iff⟩

/-- The sigma of the part is final, the one of the text is not; alone it is not final, at the end
of a word it is. -/
theorem Clause.sigma_narrows :
    Clause.holds ⟨some "body", .contains, .text "ΑΣ", false⟩ (.text "ΑΣΑ") = true ∧
      Clause.holds ⟨some "body", .contains, .text "ΑΣ", true⟩ (.text "ΑΣΑ") = false ∧
      Clause.holds ⟨some "body", .startsWith, .text "ΑΣ", false⟩ (.text "ΑΣΑ") = true ∧
      Clause.holds ⟨some "body", .startsWith, .text "ΑΣ", true⟩ (.text "ΑΣΑ") = false ∧
      Clause.holds ⟨some "body", .endsWith, .text "Σ", false⟩ (.text "ΑΣ") = true ∧
      Clause.holds ⟨some "body", .endsWith, .text "Σ", true⟩ (.text "ΑΣ") = false ∧
      ∃ f, Search.compile Letter.schema "ΑΣ" none 0 = .ok f ∧
        f.accepts (Letter.record "ΑΣΑ") = false := by
  refine ⟨?_, ?_, ?_, ?_, ?_, ?_, _, rfl, ?_⟩ <;> decide +kernel

end RecordQuery
