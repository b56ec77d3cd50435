import RecordQuery.Proofs.ReachableText
import RecordQuery.Proofs.Spellings

/-!
# Named targets of a search

A search in named fields is the disjunction of the documents that ask each of these fields for the
keyword. Only names of text fields count, and of several names for one field only the first. Where
no name counts, the search matches nothing, although an empty disjunction constrains nothing.
-/

namespace RecordQuery

open RecordQuery.Filter (Target)

/-! ### Names of targets -/

/-- Trimming keeps a first character that is no blank. -/
theorem Text.head?_trimChars {c : Char} (hc : isBlankChar c = false) (cs : List Char) :
    (trimChars (c :: cs)).head? = some c := by
  have hleft : trimLeft (c :: cs) = c :: cs := trimLeft_eq_self (by simpa using hc)
  have hprefix := trimChars_prefix (c :: cs)
  rw [hleft] at hprefix
  cases htrim : trimChars (c :: cs) with
  | nil =>
      have hblank := trimChars_eq_nil_iff.mp htrim c (by simp)
      rw [hc] at hblank
      cases hblank
  | cons d rest =>
      rw [htrim, List.cons_prefix_cons] at hprefix
      rw [List.head?_cons, hprefix.1]

theorem Filter.startsWithDollar_trim {s : String} (h : startsWithDollar s = true) :
    startsWithDollar (Text.trim s) = true := by
  have hhead : s.toList.head? = Option.some '$' := by simpa [startsWithDollar] using h
  obtain ⟨cs, hcs⟩ := List.head?_eq_some_iff.mp hhead
  rw [startsWithDollar, Text.trim, String.toList_ofList, hcs,
    Text.head?_trimChars (by decide +kernel)]
  rfl

/-- Where no field begins with a dollar sign, no text that leads to a field does. -/
theorem Schema.Named.startsWithDollar_eq_false {schema : Schema}
    (hnamed : schema.Named fun name => Filter.startsWithDollar name = false) {text : String}
    {path : Path} (hpath : schema.resolve? text = some path) :
    Filter.startsWithDollar text = false := by
  cases hsplit : Text.split '.' text with
  | nil => exact absurd (List.map_eq_nil_iff.mp hsplit) (Text.splitChars_ne_nil _ _)
  | cons segment segments =>
      refine Filter.startsWithDollar_of_split hsplit ?_
      have hsame := Schema.follow?_sameName hpath
      rw [hsplit, List.map_cons] at hsame
      obtain ⟨hop, hops, hfirst, -, hhops⟩ := List.forall₂_cons_right_iff.mp hsame
      have hname : Filter.startsWithDollar hop.name = false :=
        hnamed.path hpath hop (by simp [hhops])
      by_contra hsegment
      have htrim := Filter.startsWithDollar_trim (by simpa using hsegment)
      rw [Filter.startsWithDollar_of_sameName hfirst htrim] at hname
      cases hname

namespace Search

variable {schema : Schema}

/-- The path to a text field that a name leads to. -/
def textPath? (schema : Schema) (name : String) : Option Path :=
  (schema.resolve? name).filter fun path => path.leaf.kind = .text

/-- The names of text fields, with their paths. A name is dropped if its path has been seen, by the
text of the path. -/
def kept (schema : Schema) (seen : List String) : List String → List (String × Path)
  | [] => []
  | name :: names => match textPath? schema name with
    | some path =>
      if path.text ∈ seen then kept schema seen names
      else (name, path) :: kept schema (path.text :: seen) names
    | none => kept schema seen names

def addTarget (schema : Schema) (paths : List Path) (name : String) : List Path :=
  match textPath? schema name with
  | some path => addPath paths path
  | none => paths

theorem explicitTargets_eq (schema : Schema) (names : List String) :
    explicitTargets schema names = names.foldl (addTarget schema) [] := by
  rw [explicitTargets]
  refine congrFun (congrFun (congrArg _ (funext₂ fun paths name => ?_)) _) _
  rw [addTarget, textPath?]
  cases schema.resolve? name with
  | none => rfl
  | some path => by_cases hkind : path.leaf.kind = .text <;> simp [Option.filter_some, hkind]

/-- The targets that are added to some paths are those kept beside them. -/
theorem foldl_addTarget {paths : List Path} {seen : List String}
    (hseen : ∀ text, text ∈ seen ↔ ∃ p ∈ paths, p.text = text) (names : List String) :
    names.foldl (addTarget schema) paths = paths ++ (kept schema seen names).map Prod.snd := by
  induction names generalizing paths seen with
  | nil => simp [kept]
  | cons name names ih =>
      rw [List.foldl_cons, addTarget, kept]
      cases textPath? schema name with
      | none => exact ih hseen
      | some path =>
          dsimp only
          rw [addPath]
          by_cases hold : path.text ∈ seen
          · obtain ⟨p, hp, htext⟩ := (hseen path.text).mp hold
            have hsome : ¬ (paths.all fun p => p.text != path.text) = true := by
              simpa using ⟨p, hp, htext⟩
            rw [if_pos hold, if_neg hsome, ih hseen]
          · have hnone : (paths.all fun p => p.text != path.text) = true := by
              simpa using fun p hp htext => hold ((hseen path.text).mpr ⟨p, hp, htext⟩)
            have hseen' : ∀ text, text ∈ path.text :: seen ↔
                ∃ p ∈ paths ++ [path], p.text = text := by
              intro text
              simp only [List.mem_cons, hseen, List.mem_append, List.mem_nil_iff, or_false]
              constructor
              · rintro (rfl | ⟨p, hp, rfl⟩)
                · exact ⟨path, Or.inr rfl, rfl⟩
                · exact ⟨p, Or.inl hp, rfl⟩
              · rintro ⟨p, hp | rfl, rfl⟩
                · exact Or.inr ⟨p, hp, rfl⟩
                · exact Or.inl rfl
            rw [if_neg hold, if_pos hnone, ih hseen', List.map_cons, List.append_assoc,
              List.singleton_append]

/-- **The named targets of a search** are the paths of the names that are kept. -/
theorem targets_of_named {names : List String} (hnames : names ≠ []) (depth : Nat) :
    targets schema (some names) depth = (kept schema [] names).map Prod.snd := by
  obtain ⟨name, names, rfl⟩ := List.exists_cons_of_ne_nil hnames
  have hnone : ∀ text : String, text ∈ ([] : List String) ↔
      ∃ p ∈ ([] : List Path), p.text = text := by simp
  rw [targets, explicitTargets_eq, foldl_addTarget hnone, List.nil_append]

theorem textPath?_of_mem_kept {seen names : List String} {target : String × Path}
    (h : target ∈ kept schema seen names) : textPath? schema target.1 = some target.2 := by
  induction names generalizing seen with
  | nil => cases h
  | cons name names ih =>
      rw [kept] at h
      split at h
      next path hpath =>
        split at h
        · exact ih h
        · rcases List.mem_cons.mp h with rfl | h
          · exact hpath
          · exact ih h
      next => exact ih h

/-! ### Documents of targets -/

/-- The document that asks a target for a keyword. In a collection, some element has to contain
it. -/
def document (keyword : String) (target : String × Path) : Json :=
  let asked : Json := .object [("$containsI", .text keyword)]
  .object [(target.1, if target.2.leaf.collection then .object [("$any", asked)] else asked)]

/-- The comparison that a search makes, on a field or on an element that holds text. -/
theorem compile_asked {target : Target} (hkind : target.kind = .text) (keyword : String) :
    target.compile (.object [("$containsI", .text keyword)]) =
      .ok (.clause ⟨target.field, .contains, .text keyword, true⟩) := by
  have htoken : Operator.ofToken? "$containsI" = some (.compare .contains true false) := by decide
  have hsupports : Op.contains.supports target.kind = true := by
    rw [hkind]
    rfl
  rw [Target.compile_comparison htoken, Target.compileOperator, if_pos hsupports,
    Target.operand_eq_coerce (by decide) (by decide), hkind]
  rfl

section Document

variable (hbuilt : schema.Built)
  (hnamed : schema.Named fun name => Filter.startsWithDollar name = false) (keyword : String)
  {target : String × Path} (htarget : textPath? schema target.1 = some target.2)

include hbuilt hnamed htarget

/-- **The document of a target compiles to the search of its path.** -/
theorem compile_document :
    Filter.compile schema (document keyword target) =
      .ok (.atPath target.2 .contains (.text keyword) true) := by
  obtain ⟨name, path⟩ := target
  obtain ⟨hpath, hkind⟩ := Option.filter_eq_some_iff.mp htarget
  replace hkind : path.leaf.kind = .text := by simpa using hkind
  have hdollar := hnamed.startsWithDollar_eq_false hpath
  rw [document, Filter.compile_singleton, Filter.compileMember_path hdollar hpath, Filter.atPath]
  dsimp only
  cases hmany : path.leaf.collection with
  | false =>
      rw [if_neg (by simp), if_neg (by simp),
        Filter.compileLeaf_scalar hmany (by simp [hkind]), compile_asked hkind]
      rfl
  | true =>
      have hscalar : schema.nested? path.leaf = none :=
        Schema.nested?_eq_none (hbuilt.leaf hpath) (by simp [hkind])
      have hasked : (Target.ofElement path.leaf).compile (.object [("$containsI", .text keyword)]) =
          .ok (.clause ⟨none, .contains, .text keyword, true⟩) := compile_asked hkind keyword
      rw [if_pos rfl, if_pos rfl, Filter.compileLeaf.eq_def, if_pos hmany, hscalar]
      dsimp only
      rw [Filter.compileElements_cons, Filter.compileEntry.eq_def, if_pos (by decide)]
      dsimp only
      rw [hasked]
      rfl

omit htarget in
theorem compileDocuments_documents {targets : List (String × Path)}
    (htargets : ∀ target ∈ targets, textPath? schema target.1 = some target.2) (key : String) :
    Filter.compileDocuments schema key (targets.map (document keyword)) =
      .ok (targets.map fun target => .atPath target.2 .contains (.text keyword) true) := by
  induction targets with
  | nil => rfl
  | cons target targets ih =>
      obtain ⟨htarget, htargets⟩ := List.forall_mem_cons.mp htargets
      have hfirst := compile_document hbuilt hnamed keyword htarget
      rw [document, Filter.compile] at hfirst
      rw [List.map_cons, document, Filter.compileDocuments]
      dsimp only
      rw [hfirst, ih htargets]
      rfl

end Document

/-! ### Searches as documents -/

/-- **A search in named fields is the disjunction of the documents of its targets**, and matches
nothing where no name leads to a text field. -/
theorem compile_named (hbuilt : schema.Built)
    (hnamed : schema.Named fun name => Filter.startsWithDollar name = false) (keyword : String)
    {depth : Int} (hdepth : 0 ≤ depth) {names : List String} (hnames : names ≠ []) :
    (kept schema [] names = [] → compile schema keyword (some names) depth = .ok (.const false)) ∧
    (kept schema [] names ≠ [] → ∃ f, compile schema keyword (some names) depth = .ok f ∧
      Filter.compile schema
        (.object [("$or", .array ((kept schema [] names).map (document keyword)))]) = .ok f) := by
  rw [compile, if_neg (by omega), targets_of_named hnames]
  constructor
  · intro hnone
    rw [hnone]
    rfl
  · intro hsome
    obtain ⟨target, targets, hkept⟩ := List.exists_cons_of_ne_nil hsome
    have hpaths : ∀ target ∈ kept schema [] names, textPath? schema target.1 = some target.2 :=
      fun _ h => textPath?_of_mem_kept h
    have hor : Combinator.ofKey? "$or" = some .or := by decide
    rw [Filter.compile_singleton, Filter.compileMember_joined hor, Filter.compileJoined,
      compileDocuments_documents hbuilt hnamed keyword hpaths, hkept]
    refine ⟨_, rfl, ?_⟩
    rw [List.map_map]
    rfl

end Search

namespace Pet

theorem people_plain : people.Named fun name => Filter.startsWithDollar name = false := by
  constructor <;> simp [people, person, pet, name, aliases, pets, owner] <;> decide +kernel

/-- Of five names the fourth leads to no text and the last to the same field as the second. -/
theorem jo_in_named_targets :
    let names := ["aliases", "Pets . NAME", "pets.owner.aliases", "pets.owner", "pets.name"]
    people.Built ∧ (people.Named fun name => Filter.startsWithDollar name = false) ∧
      (0 : Int) ≤ 0 ∧ names ≠ [] ∧
      (Search.kept people [] names).map Prod.fst =
        ["aliases", "Pets . NAME", "pets.owner.aliases"] ∧
      ∃ f, Search.compile people "jo" (some names) 0 = .ok f ∧
        Filter.compile people (.object [("$or",
          .array ((Search.kept people [] names).map (Search.document "jo")))]) = .ok f := by
  intro names
  have hkept : (Search.kept people [] names).map Prod.fst =
      ["aliases", "Pets . NAME", "pets.owner.aliases"] := by decide +kernel
  have hnames : names ≠ [] := by simp [names]
  have hsome : Search.kept people [] names ≠ [] := by
    intro hnone
    rw [hnone] at hkept
    cases hkept
  exact ⟨people_built, people_plain, by decide, hnames, hkept,
    (Search.compile_named people_built people_plain "jo" (by decide) hnames).2 hsome⟩

end Pet

end RecordQuery
