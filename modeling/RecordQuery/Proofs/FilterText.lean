import RecordQuery.Proofs.NormalFilter
import RecordQuery.Proofs.OperandText

/-!
# Filters as text

The text of a filter begins with a word, or with a bracket if it is a group, and what follows the
first word tells of which form the filter is. So a text that goes on like the text of another filter
can be taken apart step by step. If the names are identifiers and no operands clash, filters in
normal form with the same text mean the same.
-/

namespace RecordQuery

open Text (Word Breaks isBreak)

namespace Text

/-- Letters, digits and underscores, and anything beyond ASCII. -/
def IsNameChar (c : Char) : Prop :=
  c.isAlphanum ∨ c = '_' ∨ 0x7f < c.toNat

@[mk_iff] structure Identifier (s : String) : Prop where
  nonempty : s ≠ ""
  chars : ∀ c ∈ s.toList, IsNameChar c

theorem Identifier.notMem {s : String} (h : Identifier s) {c : Char} (hc : ¬IsNameChar c) :
    c ∉ s.toList :=
  fun hmem => hc (h.chars c hmem)

theorem not_isNameChar {c : Char} (h : isBreak c = true) : ¬IsNameChar c := by
  have hmarks : ∀ d ∈ [' ', '(', ')', '\x7b', '\x7d', ']', ',', '~'], ¬IsNameChar d := by
    simp [IsNameChar]
  exact hmarks c (List.contains_iff_mem.mp h)

theorem Identifier.word {s : String} (h : Identifier s) : Word s.toList := by
  refine ⟨by simpa using h.nonempty, fun c hc => ?_⟩
  by_contra hbreak
  exact h.notMem (not_isNameChar (by simpa using hbreak)) hc

end Text

/-! ### Clauses -/

/-- The name of the operator with its case rule. -/
def Op.label (op : Op) (ignoreCase : Bool) : String :=
  op.name ++ if ignoreCase then "i" else ""

namespace Op

theorem word_label (op : Op) (ignoreCase : Bool) : Word (op.label ignoreCase).toList := by
  have hunbroken : (op.label ignoreCase).toList.all (fun c => !isBreak c) = true := by
    cases op <;> cases ignoreCase <;> rfl
  refine ⟨?_, fun c hc => by simpa using List.all_eq_true.mp hunbroken c hc⟩
  cases op <;> cases ignoreCase <;> exact List.cons_ne_nil _ _

def labels : List (Op × Bool) :=
  all.flatMap fun op => [(op, false), (op, true)]

theorem find?_label (op : Op) (ignoreCase : Bool) :
    labels.find? (fun p => p.1.label p.2 == op.label ignoreCase) = some (op, ignoreCase) := by
  cases op <;> cases ignoreCase <;> rfl

theorem label_unique {op op' : Op} {i i' : Bool} (h : (op.label i).toList = (op'.label i').toList) :
    op = op' ∧ i = i' := by
  have hfind := find?_label op i
  rw [String.toList_inj.mp h, find?_label op' i'] at hfind
  cases hfind
  exact ⟨rfl, rfl⟩

end Op

/-- **The text of what an operator is given tells where it ends and what it is.** -/
theorem Operand.Suits.unique {kind : Kind} {m n : Bool} {op : Op} {a b : Operand}
    (ha : a.Suits kind m op) (hb : b.Suits kind n op) (hapart : Apart a.scalars b.scalars)
    {r s : List Char} (hr : ∀ c ∈ r.head?, c ∈ Filter.followers)
    (hs : ∀ c ∈ s.head?, c ∈ Filter.followers)
    (h : a.describe.toList ++ r = b.describe.toList ++ s) : a.Alike b ∧ r = s := by
  have hbreak : ∀ c ∈ Filter.followers, isBreak c = true := by simp [Filter.followers, isBreak]
  have hr' : Breaks r := fun c hc => hbreak c (hr c hc)
  have hs' : Breaks s := fun c hc => hbreak c (hs c hc)
  cases op with
  | isIn =>
      obtain ⟨as, rfl, has⟩ := ha
      obtain ⟨bs, rfl, hbs⟩ := hb
      simp only [Operand.describe, String.toList_append, List.append_assoc] at h
      obtain ⟨hsame, hend⟩ := describeItems_unique has hbs hapart (List.cons.inj h).2
      exact ⟨.set hsame, hend⟩
  | regex =>
      obtain ⟨p, rfl⟩ := ha
      obtain ⟨q, rfl⟩ := hb
      have hclash := hapart (.pattern p) (List.mem_singleton_self _) (.pattern q)
        (List.mem_singleton_self _)
      rw [clashes, decide_eq_false_iff_not, not_or] at hclash
      simp only [Operand.describe, String.toList_append, List.append_assoc] at h
      obtain ⟨rfl, hend⟩ := Pattern.unique hclash.1 hclash.2 hr hs (List.cons.inj h).2
      exact ⟨.refl _, hend⟩
  | _ =>
      have hclash := hapart a (by simp [OfKind.scalars ha]) b (by simp [OfKind.scalars hb])
      exact OfKind.unique ha hb hclash hr' hs' h

namespace Clause

theorem describe_eq (c : Clause) :
    c.describe.toList = (c.field.getD "@").toList ++
      ' ' :: '$' :: ((c.op.label c.ignoreCase).toList ++ ' ' :: c.operand.describe.toList) := by
  simp [describe, Op.label]

/-- What a clause compares is named by a word. -/
theorem Posed.word {setting : Setting} {c : Clause} (h : c.Posed Text.Identifier setting) :
    Word (c.field.getD "@").toList ∧ '$' ∉ (c.field.getD "@").toList ∧
      '\x7b' ∉ (c.field.getD "@").toList := by
  cases hfield : c.field with
  | none => exact ⟨⟨by simp, by simp [isBreak]⟩, by simp, by simp⟩
  | some name =>
      have hname := h.name name hfield
      exact ⟨hname.word, hname.notMem (by simp [Text.IsNameChar]), hname.notMem (by simp [Text.IsNameChar])⟩

theorem Posed.field_unique {setting : Setting} {c d : Clause}
    (hc : c.Posed Text.Identifier setting) (hd : d.Posed Text.Identifier setting)
    (h : (c.field.getD "@").toList = (d.field.getD "@").toList) : c.field = d.field := by
  have hat : ∀ {c : Clause} {name : String}, c.Posed Text.Identifier setting →
      c.field = some name → name ≠ "@" := by
    rintro c name hc hname rfl
    exact (hc.name _ hname).notMem (c := '@') (by simp [Text.IsNameChar]) (by simp)
  have heq := String.toList_inj.mp h
  cases hfield : c.field with
  | none =>
      cases hfield' : d.field with
      | none => rfl
      | some name =>
          rw [hfield, hfield'] at heq
          exact absurd heq.symm (hat hd hfield')
  | some name =>
      cases hfield' : d.field with
      | none =>
          rw [hfield, hfield'] at heq
          exact absurd heq (hat hc hfield)
      | some name' =>
          rw [hfield, hfield'] at heq
          exact congrArg some heq

/-- Everything of two clauses is the same but their operands, and these compare alike. -/
structure Alike (c d : Clause) : Prop where
  field : c.field = d.field
  op : c.op = d.op
  ignoreCase : c.ignoreCase = d.ignoreCase
  operand : c.operand.Alike d.operand

/-- **The text of a clause tells where it ends and what it says.** -/
theorem Posed.unique {setting : Setting} {c d : Clause} (hc : c.Posed Text.Identifier setting)
    (hd : d.Posed Text.Identifier setting)
    (hapart : Operand.Apart c.operand.scalars d.operand.scalars) {r s : List Char}
    (hr : ∀ x ∈ r.head?, x ∈ Filter.followers) (hs : ∀ x ∈ s.head?, x ∈ Filter.followers)
    (h : c.describe.toList ++ r = d.describe.toList ++ s) : c.Alike d ∧ r = s := by
  have hblank : ∀ rest, Breaks (' ' :: rest) := fun _ => Text.breaks_cons.mpr rfl
  simp only [describe_eq, List.append_assoc, List.cons_append] at h
  obtain ⟨hfield, h⟩ := hc.word.1.unique hd.word.1 (hblank _) (hblank _) h
  have hfield := hc.field_unique hd hfield
  simp only [List.cons.injEq, true_and] at h
  obtain ⟨hlabel, h⟩ := (c.op.word_label _).unique (d.op.word_label _) (hblank _) (hblank _) h
  obtain ⟨hop, hcase⟩ := Op.label_unique hlabel
  obtain ⟨kind, m, hsuits, htext, hkind⟩ := hc.operand
  obtain ⟨kind', n, hsuits', htext', hkind'⟩ := hd.operand
  have hkinds : kind = kind' := by
    by_cases hcontains : c.op = .contains
    · rw [htext hcontains, htext' (hop ▸ hcontains)]
    · have hkind := hkind.resolve_right hcontains
      have hkind' := hkind'.resolve_right (hop ▸ hcontains)
      rw [hfield, hkind'] at hkind
      exact (Option.some.inj hkind).symm
  subst hkinds
  rw [← hop] at hsuits'
  obtain ⟨hoperand, hend⟩ := hsuits.unique hsuits' hapart hr hs (List.cons.inj h).2
  exact ⟨⟨hfield, hop, hcase, hoperand⟩, hend⟩

theorem compareTo?_congr {a b : Operand} (h : a.Alike b) (value : Value) :
    value.compareTo? a = value.compareTo? b := by
  cases h with
  | refl => rfl
  | number h =>
      cases value with
      | number k => exact h k
      | _ => rfl
  | set => cases value <;> rfl

theorem equals_congr {a b : Operand} (h : a.Alike b) (ignoreCase : Bool) (value : Value) :
    equals ignoreCase a value = equals ignoreCase b value := by
  have hcompare := compareTo?_congr h value
  cases h with
  | refl => rfl
  | number => cases value <;> exact congrArg (· == some Ordering.eq) hcompare
  | set => cases value <;> rfl

theorem any_equals_congr {as bs : List Operand} (h : List.Forall₂ Operand.Alike as bs)
    (ignoreCase : Bool) (value : Value) :
    (as.any fun item => equals ignoreCase item value) =
      bs.any fun item => equals ignoreCase item value := by
  induction h with
  | nil => rfl
  | cons hab _ ih => rw [List.any_cons, List.any_cons, equals_congr hab, ih]

/-- **Clauses that are alike hold of the same values.** -/
theorem Alike.holds_eq {c d : Clause} (h : c.Alike d) (value : Value) :
    c.holds value = d.holds value := by
  obtain ⟨field, op, operand, ignoreCase⟩ := c
  obtain ⟨field', op', operand', ignoreCase'⟩ := d
  obtain ⟨hfield, hop, hcase, hoperand⟩ := h
  dsimp only at hfield hop hcase hoperand
  subst hfield hop hcase
  have hcompare := compareTo?_congr hoperand value
  have hequals := equals_congr hoperand ignoreCase value
  cases hoperand with
  | refl => rfl
  | @number m n h => cases op <;> simp only [holds, hequals, hcompare, Value.sortOrder?]
  | set hitems =>
      have hany := any_equals_congr hitems ignoreCase value
      cases op <;> simp only [holds, hequals, hcompare, hany, Value.sortOrder?]

end Clause

/-! ### Forms -/

namespace Filter

mutual

/-- The operands of all clauses, with the candidates of sets one by one. -/
def operands : Filter → List Operand
  | .const _ => []
  | .clause c => c.operand.scalars
  | .conj children => operandsOf children
  | .disj children => operandsOf children
  | .neg inner => operands inner
  | .scope _ inner => operands inner
  | .some _ inner => operands inner

def operandsOf : List Filter → List Operand
  | [] => []
  | child :: children => operands child ++ operandsOf children

end

theorem mem_operandsOf {filters : List Filter} {operand : Operand} :
    operand ∈ operandsOf filters ↔ ∃ f ∈ filters, operand ∈ f.operands := by
  induction filters with
  | nil => simp [operandsOf]
  | cons f fs ih => simp [operandsOf, ih]

theorem apart_of_mem {as bs : List Filter}
    (h : Operand.Apart (operandsOf as) (operandsOf bs)) {a b : Filter} (ha : a ∈ as)
    (hb : b ∈ bs) : Operand.Apart a.operands b.operands :=
  fun x hx y hy => h x (mem_operandsOf.mpr ⟨a, ha, hx⟩) y (mem_operandsOf.mpr ⟨b, hb, hy⟩)

/-- What a filter can be followed by in the text of another filter or of a specification. -/
def marks : List (List Char) :=
  [[')'], ['\x7d'], ['~'], " AND ".toList, " OR ".toList, " order ".toList, " include [".toList,
    " no_tracking".toList, " split_query".toList]

def Follows (rest : List Char) : Prop :=
  Text.Begins marks rest

theorem Follows.head {rest : List Char} (h : Follows rest) :
    ∀ c ∈ rest.head?, c ∈ followers :=
  Text.Begins.head h (by simp [marks, followers])

inductive Form where
  | const
  | clause
  | group
  | negation
  | scope
  | some

def form : Filter → Form
  | .const _ => .const
  | .clause _ => .clause
  | .conj _ => .group
  | .disj _ => .group
  | .neg _ => .negation
  | .scope _ _ => .scope
  | .some _ _ => .some

/-- The first word of the text of a filter; none if the text begins with a bracket. -/
def lead : Filter → List Char
  | .const true => "true".toList
  | .const false => "false".toList
  | .clause c => (c.field.getD "@").toList
  | .conj _ => []
  | .disj _ => []
  | .neg _ => "NOT".toList
  | .scope field _ => field.toList
  | .some field _ => field.toList

def sequel : Filter → List Char
  | .const _ => []
  | .clause c => ' ' :: '$' :: ((c.op.label c.ignoreCase).toList ++ ' ' :: c.operand.describe.toList)
  | .conj children => '(' :: ((describeList " AND " children).toList ++ [')'])
  | .disj children => '(' :: ((describeList " OR " children).toList ++ [')'])
  | .neg inner => ' ' :: inner.describe.toList
  | .scope _ inner => ' ' :: '\x7b' :: (inner.describe.toList ++ ['\x7d'])
  | .some _ inner => " ANY \x7b".toList ++ (inner.describe.toList ++ ['\x7d'])

theorem describe_eq (f : Filter) : f.describe.toList = f.lead ++ f.sequel := by
  cases f with
  | const b => cases b <;> simp [describe, lead, sequel]
  | clause c => exact c.describe_eq
  | _ => simp [describe, lead, sequel]

/-- The form that the first word and what follows it tell. -/
def formOf (first rest : List Char) : Form :=
  if first = [] then .group
  else if " $".toList <+: rest then .clause
  else if " \x7b".toList <+: rest then .scope
  else if " ANY \x7b".toList <+: rest then .some
  else if first = "NOT".toList then .negation
  else .const

variable {setting : Setting} {f g : Filter} {r s : List Char}

/-- What follows a filter does not begin like what follows the first word of one. -/
theorem formOf_const (b : Bool) (hr : Follows r) : formOf (lead (.const b)) r = .const := by
  rcases hr with rfl | ⟨mark, hmark, more, rfl⟩
  · cases b <;> rfl
  · simp only [marks, List.mem_cons, List.not_mem_nil, or_false] at hmark
    rcases hmark with rfl | rfl | rfl | rfl | rfl | rfl | rfl | rfl | rfl <;> cases b <;> rfl

/-- After `NOT` comes the name in a clause, which does not begin like any other form goes on. -/
theorem formOf_not {name : List Char} (hname : Word name) (hdollar : '$' ∉ name)
    (hbrace : '\x7b' ∉ name) (rest : List Char) :
    formOf "NOT".toList (' ' :: (name ++ ' ' :: '$' :: rest)) = .negation := by
  have hany : ¬" ANY \x7b".toList <+: ' ' :: (name ++ ' ' :: '$' :: rest) := by
    -- a name can be `ANY`, but what follows it is the operator
    rintro ⟨tail, heq⟩
    have hword : Word ['A', 'N', 'Y'] := ⟨by simp, by simp [isBreak]⟩
    have hblank : ∀ rest, Breaks (' ' :: rest) := fun _ => Text.breaks_cons.mpr rfl
    obtain ⟨-, hrest⟩ := hword.unique hname (hblank ('\x7b' :: tail)) (hblank _)
      (List.cons.inj heq).2
    simp at hrest
  obtain ⟨c, cs, rfl⟩ := List.exists_cons_of_ne_nil hname.nonempty
  have hclause : ¬" $".toList <+: ' ' :: (c :: cs ++ ' ' :: '$' :: rest) := by
    intro hprefix
    have hc : '$' = c := by simpa using hprefix
    exact hdollar (hc ▸ List.mem_cons_self)
  have hscope : ¬" \x7b".toList <+: ' ' :: (c :: cs ++ ' ' :: '$' :: rest) := by
    intro hprefix
    have hc : '\x7b' = c := by simpa using hprefix
    exact hbrace (hc ▸ List.mem_cons_self)
  rw [formOf, if_neg (by simp), if_neg hclause, if_neg hscope, if_neg hany, if_pos rfl]

/-- **The first word and what follows it tell the form of a filter.** -/
theorem Normal.form_eq (hf : f.Normal Text.Identifier setting) (hr : Follows r) :
    formOf f.lead (f.sequel ++ r) = f.form := by
  cases hf with
  | const b => exact formOf_const b hr
  | clause h =>
      obtain ⟨c, cs, hlead⟩ := List.exists_cons_of_ne_nil h.word.1.nonempty
      simp [lead, sequel, hlead, formOf, form]
  | @negated _ c h =>
      have hsequel : sequel (.neg (.clause c)) ++ r = ' ' :: ((c.field.getD "@").toList ++ ' ' :: '$' ::
          ((c.op.label c.ignoreCase).toList ++ ' ' :: (c.operand.describe.toList ++ r))) := by
        simp [sequel, describe, Clause.describe_eq]
      rw [hsequel]
      exact formOf_not h.word.1 h.word.2.1 h.word.2.2 _
  | conj => rfl
  | disj => rfl
  | scope hname =>
      obtain ⟨c, cs, hlead⟩ := List.exists_cons_of_ne_nil hname.word.nonempty
      simp [lead, sequel, hlead, formOf, form]
  | some hname =>
      obtain ⟨c, cs, hlead⟩ := List.exists_cons_of_ne_nil hname.word.nonempty
      simp [lead, sequel, hlead, formOf, form]

/-! ### Telling filters apart -/

theorem Normal.breaks (hf : f.Normal Text.Identifier setting) (hr : Follows r) :
    (∀ c ∈ f.lead, isBreak c = false) ∧ Breaks (f.sequel ++ r) := by
  have hend : Breaks r := fun c hc => by
    have hfollowers : ∀ c ∈ followers, isBreak c = true := by simp [followers, isBreak]
    exact hfollowers c (hr.head c hc)
  cases hf with
  | const b => cases b <;> exact ⟨by simp [lead, isBreak], hend⟩
  | clause h => exact ⟨h.word.1.unbroken, Text.breaks_cons.mpr rfl⟩
  | negated h => exact ⟨by simp [lead, isBreak], Text.breaks_cons.mpr rfl⟩
  | conj => exact ⟨by simp [lead], Text.breaks_cons.mpr rfl⟩
  | disj => exact ⟨by simp [lead], Text.breaks_cons.mpr rfl⟩
  | scope hname => exact ⟨hname.word.unbroken, Text.breaks_cons.mpr rfl⟩
  | some hname => exact ⟨hname.word.unbroken, Text.breaks_cons.mpr rfl⟩

/-- Two texts that begin with filters have the same first word and the same form. -/
theorem Normal.lead_unique (hf : f.Normal Text.Identifier setting)
    (hg : g.Normal Text.Identifier setting) (hr : Follows r) (hs : Follows s)
    (h : f.describe.toList ++ r = g.describe.toList ++ s) :
    f.lead = g.lead ∧ f.sequel ++ r = g.sequel ++ s ∧ f.form = g.form := by
  rw [describe_eq, describe_eq, List.append_assoc, List.append_assoc] at h
  obtain ⟨hlead, hbreaks⟩ := hf.breaks hr
  obtain ⟨hlead', hbreaks'⟩ := hg.breaks hs
  obtain ⟨hleads, hsequels⟩ := Text.append_unique hlead hlead' hbreaks hbreaks' h
  refine ⟨hleads, hsequels, ?_⟩
  rw [← hf.form_eq hr, ← hg.form_eq hs, hleads, hsequels]

theorem describeList_eq (separator : String) (filters : List Filter) :
    (describeList separator filters).toList =
      List.intercalate separator.toList (filters.map fun f => f.describe.toList) :=
  Text.eq_intercalate (f := fun filters => (describeList separator filters).toList)
    (by simp [describeList]) (fun _ => by rw [describeList]) (fun _ _ _ => by simp [describeList])
    filters

/-- The filters hold of the same subjects. -/
def Equivalent (f g : Filter) : Prop :=
  ∀ subject, f.holds subject = g.holds subject

/-- The texts of groups tell how they are joined and what their parts are. -/
theorem describeList_unique {same : Filter → Filter → Prop} {as bs : List Filter}
    {separator separator' : String} (has : 2 ≤ as.length) (hbs : 2 ≤ bs.length)
    (hseparator : separator = " AND " ∨ separator = " OR ")
    (hseparator' : separator' = " AND " ∨ separator' = " OR ")
    (hitem : ∀ a ∈ as, ∀ b ∈ bs, ∀ x y, Follows x → Follows y →
      a.describe.toList ++ x = b.describe.toList ++ y → same a b ∧ x = y)
    (h : (describeList separator as).toList ++ ')' :: r =
      (describeList separator' bs).toList ++ ')' :: s) :
    separator = separator' ∧ List.Forall₂ same as bs ∧ r = s := by
  have hmark : ∀ {separator : String}, separator = " AND " ∨ separator = " OR " →
      ∀ x, Follows (separator.toList ++ x) := by
    rintro separator hseparator x
    refine Text.begins_append ?_ x
    rcases hseparator with rfl | rfl <;> simp [marks]
  -- the first parts end at the separators, so these can be compared
  have hsame : separator = separator' := by
    match as, bs with
    | a :: a' :: as, b :: b' :: bs =>
        simp only [describeList_eq, List.map_cons, List.intercalate_cons_cons,
          List.append_assoc] at h
        obtain ⟨-, hrest⟩ := hitem a (by simp) b (by simp) _ _ (hmark hseparator _)
          (hmark hseparator' _) h
        rcases hseparator with rfl | rfl <;> rcases hseparator' with rfl | rfl <;> simp at hrest ⊢
  subst hsame
  rw [describeList_eq, describeList_eq] at h
  refine ⟨rfl, Text.intercalate_unique Follows [')'] hitem
    (hmark hseparator) (Text.begins_append (by simp [marks])) ?_ ?_ ?_ h⟩
  · rcases hseparator with rfl | rfl <;> simp
  · exact List.ne_nil_of_length_pos (by omega)
  · exact List.ne_nil_of_length_pos (by omega)

theorem all_holds_congr {as bs : List Filter} (h : List.Forall₂ Equivalent as bs)
    (subject : Subject) :
    as.all (holds subject) = bs.all (holds subject) ∧
      as.any (holds subject) = bs.any (holds subject) := by
  induction h with
  | nil => exact ⟨rfl, rfl⟩
  | cons hab _ ih => simp only [List.all_cons, List.any_cons, hab subject, ih.1, ih.2, and_self]

/-- **Filters in normal form with the same text mean the same**, and the text tells where a filter
ends, unless operands clash. -/
theorem Normal.unique (hf : f.Normal Text.Identifier setting)
    (hg : g.Normal Text.Identifier setting) (hapart : Operand.Apart f.operands g.operands)
    (hr : Follows r) (hs : Follows s) (h : f.describe.toList ++ r = g.describe.toList ++ s) :
    f.Equivalent g ∧ r = s := by
  have hbrace : ∀ {rest : List Char}, Follows (['\x7d'] ++ rest) :=
    Text.begins_append (by simp [marks]) _
  -- the induction is on the one filter; the form of the other one is told by its text
  induction hf generalizing g r s with
  | const b =>
      obtain ⟨hlead, hsequel, hform⟩ := (Normal.const b).lead_unique hg hr hs h
      cases hg with
      | const b' =>
          obtain rfl : b = b' := by cases b <;> cases b' <;> simp [lead] at hlead ⊢
          exact ⟨fun _ => rfl, hsequel⟩
      | _ => cases hform
  | clause hc =>
      obtain ⟨-, -, hform⟩ := (Normal.clause hc).lead_unique hg hr hs h
      cases hg with
      | clause hd =>
          obtain ⟨halike, hend⟩ := hc.unique hd hapart hr.head hs.head h
          refine ⟨fun subject => ?_, hend⟩
          rw [holds, holds, halike.field, halike.holds_eq]
      | _ => cases hform
  | negated hc =>
      obtain ⟨-, hsequel, hform⟩ := (Normal.negated hc).lead_unique hg hr hs h
      cases hg with
      | negated hd =>
          obtain ⟨halike, hend⟩ := hc.unique hd hapart hr.head hs.head
            (List.cons.inj hsequel).2
          refine ⟨fun subject => ?_, hend⟩
          rw [holds, holds, holds, holds, halike.field, halike.holds_eq]
      | _ => cases hform
  | conj hmany hflat hchildren ih =>
      obtain ⟨-, hsequel, hform⟩ := (Normal.conj hmany hflat hchildren).lead_unique hg hr hs h
      cases hg with
      | conj hmany' _ hchildren' =>
          obtain ⟨-, hsame, hend⟩ := describeList_unique hmany hmany' (Or.inl rfl) (Or.inl rfl)
            (fun a ha b hb x y => ih a ha (hchildren' b hb) (apart_of_mem hapart ha hb))
            (by simpa [sequel] using hsequel)
          refine ⟨fun subject => ?_, hend⟩
          rw [holds, holds, holdsAll_eq, holdsAll_eq, (all_holds_congr hsame subject).1]
      | disj hmany' _ hchildren' =>
          obtain ⟨hjoined, -⟩ := describeList_unique hmany hmany' (Or.inl rfl) (Or.inr rfl)
            (fun a ha b hb x y => ih a ha (hchildren' b hb) (apart_of_mem hapart ha hb))
            (by simpa [sequel] using hsequel)
          simp at hjoined
      | _ => cases hform
  | disj hmany hflat hchildren ih =>
      obtain ⟨-, hsequel, hform⟩ := (Normal.disj hmany hflat hchildren).lead_unique hg hr hs h
      cases hg with
      | conj hmany' _ hchildren' =>
          obtain ⟨hjoined, -⟩ := describeList_unique hmany hmany' (Or.inr rfl) (Or.inl rfl)
            (fun a ha b hb x y => ih a ha (hchildren' b hb) (apart_of_mem hapart ha hb))
            (by simpa [sequel] using hsequel)
          simp at hjoined
      | disj hmany' _ hchildren' =>
          obtain ⟨-, hsame, hend⟩ := describeList_unique hmany hmany' (Or.inr rfl) (Or.inr rfl)
            (fun a ha b hb x y => ih a ha (hchildren' b hb) (apart_of_mem hapart ha hb))
            (by simpa [sequel] using hsequel)
          refine ⟨fun subject => ?_, hend⟩
          rw [holds, holds, holdsAny_eq, holdsAny_eq, (all_holds_congr hsame subject).2]
      | _ => cases hform
  | scope hname hinner ih =>
      obtain ⟨hlead, hsequel, hform⟩ := (Normal.scope hname hinner).lead_unique hg hr hs h
      cases hg with
      | scope hname' hinner' =>
          obtain rfl := String.toList_inj.mp hlead
          simp only [sequel, List.cons_append, List.append_assoc, List.cons.injEq,
            true_and] at hsequel
          obtain ⟨hsame, hend⟩ := ih hinner' hapart hbrace hbrace hsequel
          refine ⟨fun subject => ?_, List.cons.inj hend |>.2⟩
          simp only [holds, hsame _]
      | _ => cases hform
  | some hname hinner ih =>
      obtain ⟨hlead, hsequel, hform⟩ := (Normal.some hname hinner).lead_unique hg hr hs h
      cases hg with
      | some hname' hinner' =>
          obtain rfl := String.toList_inj.mp hlead
          simp only [sequel, List.append_assoc, List.append_cancel_left_eq] at hsequel
          obtain ⟨hsame, hend⟩ := ih hinner' hapart hbrace hbrace hsequel
          refine ⟨fun subject => ?_, List.cons.inj hend |>.2⟩
          simp only [holds, hsame _]
      | _ => cases hform

end Filter

end RecordQuery
