import RecordQuery.Proofs.CanonicalSpecification
import RecordQuery.Proofs.CompiledMeaning
import RecordQuery.Proofs.FilterText
import RecordQuery.Proofs.JsonDistinct
import RecordQuery.Proofs.SortText

/-!
# Cache keys

A cache key is the name of the record type, the text of the criteria and up to five sections, each
with its own mark. For canonical specifications over a schema with identifiers as names, the key
tells the criteria up to their meaning, and it tells the sections, unless operands of the two
specifications clash.
-/

namespace RecordQuery

open Text (Breaks isBreak Begins tagged)

/-! ### Sort keys -/

theorem Path.notMem_text {p : Path} (hp : p.Named Text.Identifier) {c : Char}
    (hc : ¬Text.IsNameChar c) (hdot : c ≠ '.') : c ∉ p.text.toList := by
  intro hmem
  rcases Text.mem_join hmem with hmem | ⟨name, hname, hmem⟩
  · exact hdot (by simpa using hmem)
  · obtain ⟨hop, hhop, rfl⟩ := List.mem_map.mp hname
    exact (hp hop hhop).notMem hc hmem

theorem Path.unbroken_text {p : Path} (hp : p.Named Text.Identifier) :
    ∀ c ∈ p.text.toList, isBreak c = false := by
  intro c hc
  by_contra hbreak
  rw [Bool.not_eq_false] at hbreak
  refine p.notMem_text hp (Text.not_isNameChar hbreak) ?_ hc
  rintro rfl
  simp [isBreak] at hbreak

namespace SortOrder

variable {schema : Schema} {order order' : SortOrder}

theorem Resolved.named (h : order.Resolved schema) (hnamed : schema.Named Text.Identifier) :
    ∀ key ∈ order.keys, key.path.Named Text.Identifier := by
  intro key hkey
  obtain ⟨entry, hentry⟩ := h key hkey
  obtain ⟨text, -, hpath, -⟩ := readKey_eq_ok.mp hentry
  exact hnamed.path hpath

theorem Resolved.plain (h : order.Resolved schema) (hnamed : schema.Named Text.Identifier) :
    order.Plain :=
  fun key hkey => Path.notMem_text (h.named hnamed key hkey) (by simp [Text.IsNameChar]) (by decide)

/-- **The text of an order tells its keys.** -/
theorem Resolved.keys_unique (h : order.Resolved schema) (h' : order'.Resolved schema)
    (hnamed : schema.Named Text.Identifier) (htext : order.text = order'.text) :
    order.keys = order'.keys := by
  have hread : ∀ {order : SortOrder}, order.Resolved schema →
      (entries order.text).map (readKey schema) = order.keys.map .ok := by
    intro order h
    rw [entries_text (h.plain hnamed) h, List.map_map]
    refine List.map_congr_left fun key hkey => ?_
    obtain ⟨entry, hentry⟩ := h key hkey
    exact readKey_entry hentry
  have hkeys := (hread h).symm.trans ((congrArg _ (congrArg entries htext)).trans (hread h'))
  exact List.map_injective_iff.mpr (fun _ _ => Except.ok.inj) hkeys

theorem Resolved.notMem_text (h : order.Resolved schema) (hnamed : schema.Named Text.Identifier)
    {c : Char} (hc : ¬Text.IsNameChar c) (hmark : c ∉ ['.', ':', ',']) : c ∉ order.text.toList := by
  simp only [List.mem_cons, List.not_mem_nil, or_false, not_or] at hmark
  have hdirection : ∀ dir : Direction, c ∉ dir.name.toList := by
    intro dir hmem
    have hletters : ∀ d ∈ dir.name.toList, Text.IsNameChar d := by
      cases dir <;> simp [Direction.name, Text.IsNameChar]
    exact hc (hletters c hmem)
  intro hmem
  rcases Text.mem_join hmem with hmem | ⟨entry, hentry, hmem⟩
  · exact hmark.2.2 (by simpa using hmem)
  · obtain ⟨key, hkey, rfl⟩ := List.mem_map.mp hentry
    simp only [String.toList_append, List.mem_append] at hmem
    rcases hmem with (hmem | hmem) | hmem
    · exact Path.notMem_text (h.named hnamed key hkey) hc hmark.1 hmem
    · exact hmark.2.1 (by simpa using hmem)
    · exact hdirection key.dir hmem

/-- **The text of an order tells where it ends and its keys**, before a blank or a tilde. -/
theorem Resolved.unique (h : order.Resolved schema) (h' : order'.Resolved schema)
    (hnamed : schema.Named Text.Identifier) {r s : List Char}
    (hr : ∀ c ∈ r.head?, [' ', '~'].contains c = true)
    (hs : ∀ c ∈ s.head?, [' ', '~'].contains c = true)
    (htext : order.text.toList ++ r = order'.text.toList ++ s) :
    order.keys = order'.keys ∧ r = s := by
  have hmarked : ∀ {order : SortOrder}, order.Resolved schema →
      ∀ c ∈ order.text.toList, [' ', '~'].contains c = false := by
    intro order h c hc
    by_contra hmark
    simp only [List.contains_eq_mem, List.mem_cons, List.not_mem_nil, or_false, Bool.not_eq_false,
      decide_eq_true_eq] at hmark
    rcases hmark with rfl | rfl <;>
      exact h.notMem_text hnamed (by simp [Text.IsNameChar]) (by simp) hc
  obtain ⟨hsame, hend⟩ := Text.append_unique (hmarked h) (hmarked h') hr hs htext
  exact ⟨h.keys_unique h' hnamed (String.toList_inj.mp hsame), hend⟩

end SortOrder

theorem Text.join_eq (separator : String) (parts : List String) :
    (join separator parts).toList =
      List.intercalate separator.toList (parts.map String.toList) :=
  eq_intercalate (f := fun parts => (join separator parts).toList) rfl (fun _ => by rw [join])
    (fun _ _ _ => by simp [join]) parts

namespace Specification

variable {schema : Schema} {spec a b : Specification} {r s : List Char}

/-! ### Sections -/

theorem Canonical.unbroken (h : spec.Canonical Text.Identifier schema)
    (hnamed : schema.Named Text.Identifier) :
    ∀ path ∈ spec.includes, ∀ c ∈ path.toList, isBreak c = false := by
  intro path hpath
  obtain ⟨text, p, hp, rfl⟩ := h.includes path hpath
  exact p.unbroken_text (hnamed.path hp)

/-- The paths to load, if there are any. -/
def loads (spec : Specification) : Option (List String) :=
  if spec.includes.isEmpty then none else some spec.includes

theorem includes_of_mem_loads {paths : List String} (h : paths ∈ spec.loads) :
    spec.includes = paths ∧ paths ≠ [] := by
  rw [loads] at h
  split at h
  next => cases h
  next hne =>
    cases h
    exact ⟨rfl, by simpa using hne⟩

theorem includes_eq (spec : Specification) : spec.includes = spec.loads.getD [] := by
  rw [loads]
  split
  next hempty => simpa using hempty
  next => rfl

/-- **The text of the includes tells where it ends and which they are.** -/
theorem Canonical.loads_unique (ha : a.Canonical Text.Identifier schema)
    (hb : b.Canonical Text.Identifier schema) (hnamed : schema.Named Text.Identifier)
    {paths paths' : List String} (hpaths : paths ∈ a.loads) (hpaths' : paths' ∈ b.loads)
    (h : (Text.join ", " paths).toList ++ ']' :: r = (Text.join ", " paths').toList ++ ']' :: s) :
    paths = paths' ∧ r = s := by
  obtain ⟨rfl, hne⟩ := includes_of_mem_loads hpaths
  obtain ⟨rfl, hne'⟩ := includes_of_mem_loads hpaths'
  rw [Text.join_eq, Text.join_eq] at h
  have hpath : ∀ path ∈ a.includes, ∀ path' ∈ b.includes, ∀ x y, Breaks x → Breaks y →
      path.toList ++ x = path'.toList ++ y → path = path' ∧ x = y := by
    intro path hpath path' hpath' x y hx hy heq
    obtain ⟨hsame, hend⟩ := Text.append_unique (ha.unbroken hnamed path hpath)
      (hb.unbroken hnamed path' hpath') hx hy heq
    exact ⟨String.toList_inj.mp hsame, hend⟩
  obtain ⟨hsame, hend⟩ := Text.intercalate_unique Breaks [']'] hpath
    (fun _ => Text.breaks_cons.mpr rfl) (fun _ => Text.breaks_cons.mpr rfl) (by simp) hne hne' h
  rw [List.forall₂_eq_eq_eq] at hsame
  exact ⟨hsame, hend⟩

def flagText (mark : String) (flag : Bool) : List Char :=
  tagged mark.toList (fun _ : Unit => []) (if flag then some () else none)

def includeText (spec : Specification) : List Char :=
  tagged " include [".toList (fun paths => (Text.join ", " paths).toList ++ [']']) spec.loads

/-- What follows the criteria in a key. -/
def sections (extra : Option Json) (spec : Specification) : List Char :=
  tagged " order ".toList (fun order : SortOrder => order.text.toList) spec.sort ++
    (includeText spec ++
      (flagText " no_tracking" spec.noTracking ++
        (flagText " split_query" spec.splitQuery ++ tagged ['~'] Json.write extra)))

theorem cacheKeyWith_eq (extra : Option Json) (spec : Specification) :
    (spec.cacheKeyWith schema extra).toList =
      (schema.type.name ++ "|where ").toList ++
        (spec.predicate.describe.toList ++ spec.sections extra) := by
  have hflag : ∀ (mark : String) (flag : Bool),
      flagText mark flag = (if flag then mark else "").toList := by
    intro mark flag
    cases flag <;> simp [flagText, tagged]
  have hincludes : includeText spec = (if spec.includes.isEmpty then ""
      else " include [" ++ Text.join ", " spec.includes ++ "]").toList := by
    rw [includeText, loads]
    split <;> simp [tagged]
  rw [sections, hincludes, hflag, hflag, cacheKeyWith.eq_def, text.eq_def]
  cases spec.sort <;> cases extra <;> simp [tagged, Json.render]

/-- What a key tells besides the criteria. -/
structure SameSections (a b : Specification) (extra extra' : Option Json) : Prop where
  sort : a.sort.map SortOrder.keys = b.sort.map SortOrder.keys
  includes : a.includes = b.includes
  noTracking : a.noTracking = b.noTracking
  splitQuery : a.splitQuery = b.splitQuery
  extra : extra = extra'

section Sections

variable {extra extra' : Option Json}

theorem begins_extra (extra : Option Json) : Begins [['~']] (tagged ['~'] Json.write extra) := by
  simpa using Text.begins_tagged (Or.inl rfl : Begins [] []) ['~'] Json.write extra

theorem begins_splitQuery (extra : Option Json) (spec : Specification) :
    Begins [" split_query".toList, ['~']]
      (flagText " split_query" spec.splitQuery ++ tagged ['~'] Json.write extra) :=
  Text.begins_tagged (begins_extra extra) _ _ _

theorem begins_noTracking (extra : Option Json) (spec : Specification) :
    Begins [" no_tracking".toList, " split_query".toList, ['~']]
      (flagText " no_tracking" spec.noTracking ++
        (flagText " split_query" spec.splitQuery ++ tagged ['~'] Json.write extra)) :=
  Text.begins_tagged (begins_splitQuery extra spec) _ _ _

theorem begins_includes (extra : Option Json) (spec : Specification) :
    Begins [" include [".toList, " no_tracking".toList, " split_query".toList, ['~']]
      (includeText spec ++ (flagText " no_tracking" spec.noTracking ++
        (flagText " split_query" spec.splitQuery ++ tagged ['~'] Json.write extra))) :=
  Text.begins_tagged (begins_noTracking extra spec) _ _ _

/-- What follows the criteria does not belong to them. -/
theorem follows_sections (extra : Option Json) (spec : Specification) :
    Filter.Follows (spec.sections extra) :=
  (Text.begins_tagged (begins_includes extra spec) " order ".toList _ _).mono (by simp [Filter.marks])

theorem flagText_unique {mark : String} {f g : Bool} {starts : List (List Char)}
    (hmark : mark.toList ≠ [])
    (hdiffer : ∀ start ∈ starts, ¬start <+: mark.toList ∧ ¬mark.toList <+: start)
    (hr : Begins starts r) (hs : Begins starts s)
    (h : flagText mark f ++ r = flagText mark g ++ s) : f = g ∧ r = s := by
  obtain ⟨hflag, hend⟩ := Text.tagged_unique id (fun _ _ _ _ h => ⟨rfl, h⟩) hmark hdiffer hr hs h
  exact ⟨by cases f <;> cases g <;> simp at hflag ⊢, hend⟩

/-- **The sections tell the keys, the includes, the flags and the extra.** -/
theorem Canonical.sections_unique (ha : a.Canonical Text.Identifier schema)
    (hb : b.Canonical Text.Identifier schema) (hnamed : schema.Named Text.Identifier)
    (h : a.sections extra = b.sections extra') : SameSections a b extra extra' := by
  -- from the first section on, what follows a section begins with the mark of a later one
  obtain ⟨hsort, h⟩ := Text.tagged_unique SortOrder.keys
    (fun x hx y hy h => (ha.sort x hx).unique (hb.sort y hy) hnamed
      ((begins_includes extra a).head (by simp)) ((begins_includes extra' b).head (by simp)) h)
    (by simp) (by simp) (begins_includes extra a) (begins_includes extra' b) h
  obtain ⟨hincludes, h⟩ := Text.tagged_unique id
    (fun x hx y hy h => ha.loads_unique hb hnamed hx hy (by simpa using h))
    (by simp) (by simp) (begins_noTracking extra a) (begins_noTracking extra' b) h
  obtain ⟨hnoTracking, h⟩ := flagText_unique (by simp) (by simp) (begins_splitQuery extra a)
    (begins_splitQuery extra' b) h
  obtain ⟨hsplitQuery, h⟩ := flagText_unique (by simp) (by simp) (begins_extra extra)
    (begins_extra extra') h
  have hnothing : Begins [] [] := Or.inl rfl
  obtain ⟨hextra, -⟩ := Text.tagged_unique id
    (fun x _ y _ h => Json.write_unique x y Text.breaks_nil Text.breaks_nil h)
    (List.cons_ne_nil '~' []) (by simp) hnothing hnothing (by simpa using h)
  simp only [Option.map_id_fun, id_eq] at hincludes hextra
  refine ⟨hsort, ?_, hnoTracking, hsplitQuery, hextra⟩
  rw [includes_eq, hincludes, ← includes_eq]

/-- **Canonical specifications with the same key mean the same**, unless operands clash. -/
theorem Canonical.cacheKeyWith_unique (ha : a.Canonical Text.Identifier schema)
    (hb : b.Canonical Text.Identifier schema) (hnamed : schema.Named Text.Identifier)
    (hapart : Operand.Apart a.predicate.operands b.predicate.operands)
    (h : a.cacheKeyWith schema extra = b.cacheKeyWith schema extra') :
    a.predicate.Equivalent b.predicate ∧ SameSections a b extra extra' := by
  have hchars := congrArg String.toList h
  rw [cacheKeyWith_eq, cacheKeyWith_eq, List.append_cancel_left_eq] at hchars
  obtain ⟨hcriteria, hsections⟩ := ha.predicate.unique hb.predicate hapart
    (follows_sections extra a) (follows_sections extra' b) hchars
  exact ⟨hcriteria, ha.sections_unique hb hnamed hsections⟩

end Sections

end Specification

/-- **A cache key identifies the query.** If two specifications that are put together from
documents, requests, searches, sorts, includes and flags have the same key, they accept the same
records, have the same sort keys, includes and flags and were given the same extra, provided that
no operands clash. -/
theorem Assembly.cacheKey_identifies {schema : Schema} (hnamed : schema.Named Text.Identifier)
    {left right : Assembly} (hleft : left.Compiled schema) (hright : right.Compiled schema)
    {a b : Specification} (ha : left.specification schema = .ok a)
    (hb : right.specification schema = .ok b)
    (hapart : Operand.Apart a.predicate.operands b.predicate.operands)
    {extra extra' : Option Json} (h : a.cacheKeyWith schema extra = b.cacheKeyWith schema extra') :
    (∀ r, a.accepts r = b.accepts r) ∧ a.sort.map SortOrder.keys = b.sort.map SortOrder.keys ∧
      a.includes = b.includes ∧ a.noTracking = b.noTracking ∧ a.splitQuery = b.splitQuery ∧
      extra = extra' := by
  obtain ⟨hcriteria, hsame⟩ := (left.canonical hnamed hleft ha).cacheKeyWith_unique
    (right.canonical hnamed hright hb) hnamed hapart h
  exact ⟨fun r => hcriteria (.record r), hsame.sort, hsame.includes, hsame.noTracking,
    hsame.splitQuery, hsame.extra⟩

theorem Pattern.ofText?_source (p : Pattern) : ofText? p.source = some p := by
  rw [ofText?]
  split
  next expr h => exact congrArg some (ext_source rfl)
  next h => cases h.symm.trans p.spelled

/-! ### Articles -/

namespace Article

theorem named : schema.Named Text.Identifier := by
  have hnames : ∀ name ∈ ["title", "score", "tags", "author", "reviewers", "name"],
      Text.Identifier name := by simp [Text.identifier_iff, Text.IsNameChar]
  constructor <;> simp [schema, person, title, score, tags, author, reviewers, name, hnames]

/-- A test of two specifications of articles. -/
def both (left right : Assembly) (test : Specification → Specification → Bool) : Bool :=
  match left.specification schema, right.specification schema with
  | .ok a, .ok b => test a b
  | _, _ => false

theorem both_eq_true {left right : Assembly} {test : Specification → Specification → Bool}
    (h : both left right test = true) :
    ∃ a b, left.specification schema = .ok a ∧ right.specification schema = .ok b ∧
      test a b = true := by
  rw [both] at h
  split at h
  next a b ha hb => exact ⟨a, b, ha, hb, h⟩
  next => cases h

/-- Found articles with at least a score, by title and with their authors. -/
def ranked (least : Json.Numeric) : Assembly :=
  .built [
    .filter (.object [
      ("$or", .array [
        .object [("tags", .object [("$any", .object [("$in", .array [.text "x\"", .text "]"])])])],
        .object [("score", .object [("$gte", .number least)])]])]),
    .search { keyword := some "lean" }, .sort "title:desc" none, .load "Author", .splitQuery]

def four : Json.Numeric := .real false ⟨0x4010000000000000, by decide⟩ (by decide)

/-- The score may be a whole number or a floating-point number. -/
theorem cacheKey_ranked :
    ∃ a b, (ranked (.ofUInt32 4)).specification schema = .ok a ∧
      (ranked four).specification schema = .ok b ∧
      a.cacheKeyWith schema (some (.bool true)) = b.cacheKeyWith schema (some (.bool true)) ∧
      ∀ r, a.accepts r = b.accepts r := by
  have hboth : both (ranked (.ofUInt32 4)) (ranked four) (fun a b =>
      decide (Operand.Apart a.predicate.operands b.predicate.operands) &&
        a.cacheKeyWith schema (some (.bool true)) == b.cacheKeyWith schema (some (.bool true))) =
      true := by decide +kernel
  obtain ⟨a, b, ha, hb, htest⟩ := both_eq_true hboth
  rw [Bool.and_eq_true, decide_eq_true_eq, beq_iff_eq] at htest
  have hcompiled : ∀ least, (ranked least).Compiled schema := by
    simp [ranked, Assembly.Compiled, Builder.Step.Compiled]
  obtain ⟨haccepts, -⟩ := Assembly.cacheKey_identifies named (hcompiled _) (hcompiled _) ha hb
    htest.1 htest.2
  exact ⟨a, b, ha, hb, htest.2, haccepts⟩

/-! ### Operands that clash -/

/-- The specifications have the same key but do not accept the same records. -/
structure Confused (left right : Assembly) : Prop where
  names : schema.Named Text.Identifier
  compiled : left.Compiled schema ∧ right.Compiled schema
  shared : ∃ a b, left.specification schema = .ok a ∧ right.specification schema = .ok b ∧
    a.cacheKeyWith schema none = b.cacheKeyWith schema none ∧ ∃ r, a.accepts r ≠ b.accepts r

def beyond (score : Json.Numeric) : Assembly :=
  .built [.filter (.object [("score", .object [("$gt", .number score)])])]

/-- The whole number `2 ^ 53`. -/
def limit : Json.Numeric := .whole 9007199254740992 (by decide)

/-- The floating-point number `2 ^ 53`. -/
def realLimit : Json.Numeric := .real false ⟨0x4340000000000000, by decide⟩ (by decide)

/-- The whole number after `2 ^ 53` is greater than it, but not as a floating-point number. -/
theorem confused_numbers : Confused (beyond limit) (beyond realLimit) := by
  have hboth : both (beyond limit) (beyond realLimit) (fun a b =>
      a.cacheKeyWith schema none == b.cacheKeyWith schema none &&
        a.accepts [("score", .number (.signed 9007199254740993))] !=
          b.accepts [("score", .number (.signed 9007199254740993))]) = true := by decide +kernel
  obtain ⟨a, b, ha, hb, htest⟩ := both_eq_true hboth
  rw [Bool.and_eq_true, beq_iff_eq, bne_iff_ne] at htest
  have hcompiled : ∀ score, (beyond score).Compiled schema := by
    simp [beyond, Assembly.Compiled, Builder.Step.Compiled]
  exact ⟨named, ⟨hcompiled _, hcompiled _⟩, a, b, ha, hb, htest.1, _, htest.2⟩

/-- The title matches a pattern. -/
def matching (source : String) : Json :=
  .object [("title", .object [("$regex", .text source)])]

def matchingBoth (source source' : String) : Assembly :=
  .built [.filter (matching source), .filter (matching source')]

def matchingClause (p : Pattern) : Filter :=
  .clause ⟨some "title", .regex, .pattern p, false⟩

open RecordQuery.Filter in
theorem compile_matching (p : Pattern) :
    Filter.compile schema (matching p.source) = .ok (matchingClause p) := by
  have hcondition : (Target.ofLeaf title).compile (.object [("$regex", .text p.source)]) =
      .ok (matchingClause p) := by
    have hkey : Combinator.ofKey? "$regex" = none := by decide +kernel
    have hop : Operator.ofToken? "$regex" = some (.compare .regex false false) := by decide +kernel
    have hsupports : Op.regex.supports (Target.ofLeaf title).kind = true := rfl
    rw [Target.compile, Target.compileMembers, hkey]
    dsimp only
    rw [hop]
    dsimp only
    rw [Target.compileOperator, if_pos hsupports, Target.operand, Pattern.ofText?_source]
    rfl
  have hmember : compileMember schema "title" (.object [("$regex", .text p.source)]) =
      .ok (matchingClause p) := by
    have hkey : Combinator.ofKey? "title" = none := by decide +kernel
    have hdollar : startsWithDollar "title" = false := by decide +kernel
    have hfield : schema.resolve? "title" = some ⟨[], title⟩ := by decide +kernel
    rw [compileMember, hkey]
    dsimp only
    rw [hdollar, hfield, if_neg (by decide)]
    exact congrArg (Except.map _) hcondition
  rw [matching, compile, Filter.compileMembers, hmember]
  rfl

section Matching

variable (p q : Pattern)

def matchingSpecification : Specification where
  criteria := some (.conj [matchingClause p, matchingClause q])

theorem specification_matchingBoth :
    (matchingBoth p.source q.source).specification schema = .ok (matchingSpecification p q) := by
  simp only [matchingBoth, Assembly.specification, Builder.runSteps, Builder.Step.run,
    Builder.filter, compile_matching]
  rfl

theorem cacheKeyWith_matchingBoth :
    (matchingSpecification p q).cacheKeyWith schema none =
      "Article|where (title $regex /" ++ p.source ++ "/ AND title $regex /" ++ q.source ++ "/)" := by
  simp [matchingSpecification, Specification.cacheKeyWith, Specification.text,
    Specification.predicate, schema, Filter.describe, Filter.describeList, matchingClause,
    Clause.describe, Operand.describe, Op.name, ← String.toList_inj]

theorem accepts_matchingBoth (s : String) :
    (matchingSpecification p q).accepts [("title", .text s)] =
      (p.matchesText s && q.matchesText s) := by
  have hread : (Subject.record [("title", .text s)]).read (some "title") = .text s := rfl
  simp [matchingSpecification, Specification.accepts, Specification.predicate, Filter.accepts,
    Filter.holds, Filter.holdsAll, matchingClause, Clause.holds, hread]

end Matching

/-- A pattern that is read, and whether it matches a text. -/
theorem exists_pattern {source s : String} {verdict : Bool}
    (h : (Pattern.read? source).map (·.matchesIn s.toList) = some verdict) :
    ∃ p : Pattern, p.source = source ∧ p.matchesText s = verdict := by
  obtain ⟨expr, hexpr, hmatches⟩ := Option.map_eq_some_iff.mp h
  exact ⟨⟨source, expr, hexpr⟩, rfl, hmatches⟩

set_option maxRecDepth 10000 in
/-- The text between the sources of two patterns is part of one of them. -/
theorem confused_patterns :
    Confused (matchingBoth "a|/ AND title $regex /b" "c")
      (matchingBoth "a|" "b/ AND title $regex /c") := by
  -- only the sources are read by evaluation; documents and keys are dealt with for all patterns
  have hlong : (Pattern.read? "a|/ AND title $regex /b").map (·.matchesIn "ac".toList) =
      some true := by cbv
  have hshort : (Pattern.read? "c").map (·.matchesIn "ac".toList) = some true := by cbv
  have hshort' : (Pattern.read? "a|").map (·.matchesIn "ac".toList) = some true := by cbv
  have hlong' : (Pattern.read? "b/ AND title $regex /c").map (·.matchesIn "ac".toList) =
      some false := by cbv
  obtain ⟨p, hp, hmatches⟩ := exists_pattern hlong
  obtain ⟨q, hq, hmatches'⟩ := exists_pattern hshort
  obtain ⟨r, hr, hmatches''⟩ := exists_pattern hshort'
  obtain ⟨s, hs, hfails⟩ := exists_pattern hlong'
  rw [← hp, ← hq, ← hr, ← hs]
  have hcompiled : ∀ source source', (matchingBoth source source').Compiled schema := by
    simp [matchingBoth, Assembly.Compiled, Builder.Step.Compiled]
  refine ⟨named, ⟨hcompiled _ _, hcompiled _ _⟩, _, _, specification_matchingBoth p q,
    specification_matchingBoth r s, ?_, [("title", .text "ac")], ?_⟩
  · rw [cacheKeyWith_matchingBoth, cacheKeyWith_matchingBoth, hp, hq, hr, hs]
    rfl
  · rw [accepts_matchingBoth, accepts_matchingBoth, hmatches, hmatches', hmatches'', hfails]
    decide

end Article

end RecordQuery
