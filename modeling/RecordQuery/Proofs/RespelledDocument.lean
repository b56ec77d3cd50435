import RecordQuery.Proofs.FilterText
import RecordQuery.Proofs.LetterCase

/-!
# Respelled documents

The keys of a document may be spelled in any letter case, and a document compiles however they are
spelled. The members of an object stand in the order of their keys, though, so letters of another
case may move them, and with them the parts of a conjunction. The filter then holds of the same
records, and where no member moves it is the same filter.
-/

namespace RecordQuery

/-! ### Outcomes -/

/-- Both outcomes are values that are related, or both are errors. -/
inductive Alike {ε α β : Type} (related : α → β → Prop) : Except ε α → Except ε β → Prop
  | ok {a : α} {b : β} (h : related a b) : Alike related (.ok a) (.ok b)
  | error (left right : ε) : Alike related (.error left) (.error right)

namespace Alike

variable {ε α β γ δ : Type} {related : α → β → Prop} {x : Except ε α} {y : Except ε β}

theorem refl {related : α → α → Prop} (h : ∀ a, related a a) (x : Except ε α) :
    Alike related x x := by
  cases x with
  | error e => exact .error e e
  | ok a => exact .ok (h a)

theorem mono {other : α → β → Prop} (h : Alike related x y)
    (hmono : ∀ a b, related a b → other a b) : Alike other x y := by
  cases h with
  | error left right => exact .error left right
  | ok h => exact .ok (hmono _ _ h)

theorem map {other : γ → δ → Prop} {f : α → γ} {g : β → δ} (h : Alike related x y)
    (hmap : ∀ a b, related a b → other (f a) (g b)) : Alike other (x.map f) (y.map g) := by
  cases h with
  | error left right => exact .error left right
  | ok h => exact .ok (hmap _ _ h)

theorem bind {other : γ → δ → Prop} {f : α → Except ε γ} {g : β → Except ε δ}
    (h : Alike related x y) (hbind : ∀ a b, related a b → Alike other (f a) (g b)) :
    Alike other (x >>= f) (y >>= g) := by
  cases h with
  | error left right => exact .error left right
  | ok h => exact hbind _ _ h

theorem trans {between : β → γ → Prop} {z : Except ε γ} (h : Alike related x y)
    (hnext : Alike between y z) : Alike (fun a c => ∃ b, related a b ∧ between b c) x z := by
  cases h with
  | error left right =>
      cases hnext
      exact .error _ _
  | ok h =>
      cases hnext with
      | ok hnext => exact .ok ⟨_, h, hnext⟩

theorem exists_ok {a : α} (h : Alike related (.ok a) y) : ∃ b, y = .ok b ∧ related a b := by
  cases h with
  | ok h => exact ⟨_, rfl, h⟩

theorem of_toOption_eq {x y : Except ε α} (h : x.toOption = y.toOption) : Alike Eq x y := by
  cases x <;> cases y <;> cases h
  · exact .error _ _
  · exact .ok rfl

/-- Parts that are read in a row. -/
theorem cons {xs : Except ε (List α)} {ys : Except ε (List β)} (h : Alike related x y)
    (hrest : Alike (List.Forall₂ related) xs ys) :
    Alike (List.Forall₂ related) (do let a ← x; let as ← xs; .ok (a :: as))
      (do let b ← y; let bs ← ys; .ok (b :: bs)) :=
  h.bind fun _ _ hfirst => hrest.bind fun _ _ hrest => .ok (.cons hfirst hrest)

/-- What is read from each item of a list does not depend on the items around it. -/
theorem mapM_perm {f : α → Except ε γ} {xs ys : List α} (h : xs.Perm ys) :
    Alike List.Perm (xs.mapM f) (ys.mapM f) := by
  induction h with
  | nil => exact .ok .nil
  | cons x _ ih =>
      rw [List.mapM_cons, List.mapM_cons]
      refine (refl (fun _ => rfl) (f x)).bind fun first _ hfirst => ?_
      subst hfirst
      exact ih.bind fun _ _ hrest => .ok (hrest.cons first)
  | swap x y xs =>
      simp only [List.mapM_cons]
      cases f x with
      | error e => cases f y <;> exact .error _ _
      | ok a =>
          cases f y with
          | error e => exact .error _ _
          | ok b =>
              cases xs.mapM f with
              | error e => exact .error _ _
              | ok rest => exact .ok (.swap a b rest)
  | trans _ _ ih ih' =>
      refine (ih.trans ih').mono ?_
      rintro a c ⟨b, hab, hbc⟩
      exact hab.trans hbc

end Alike

/-- The same members, in the same order unless members may move. -/
def Reordered {α : Type} (moved : Prop) (xs ys : List α) : Prop :=
  xs = ys ∨ moved ∧ xs.Perm ys

theorem Reordered.mapM {ε α β : Type} {moved : Prop} {xs ys : List α} (h : Reordered moved xs ys)
    (f : α → Except ε β) : Alike (Reordered moved) (xs.mapM f) (ys.mapM f) := by
  rcases h with rfl | ⟨hmoved, hperm⟩
  · refine .refl (fun read => ?_) _
    exact Or.inl rfl
  · exact (Alike.mapM_perm hperm).mono fun _ _ h => Or.inr ⟨hmoved, h⟩

/-! ### Filters -/

namespace Filter

/-- The filters hold of the same subjects, and are the same unless members may move. -/
structure SameUnless (moved : Prop) (f g : Filter) : Prop where
  equivalent : f.Equivalent g
  eq : ¬moved → f = g

section Same

variable {moved : Prop} {f g : Filter} {fs hs gs : List Filter}

theorem SameUnless.refl (f : Filter) : SameUnless moved f f :=
  ⟨fun _ => rfl, fun _ => rfl⟩

theorem eq_of_forall₂ (h : List.Forall₂ (SameUnless moved) fs gs) (hmoved : ¬moved) : fs = gs :=
  List.forall₂_eq_eq_eq.le _ _ (h.imp fun _ _ hfg => hfg.eq hmoved)

theorem SameUnless.all (h : List.Forall₂ (SameUnless moved) fs hs)
    (horder : Reordered moved hs gs) :
    SameUnless moved (all fs) (all gs) := by
  constructor
  · intro subject
    have hparts := (all_holds_congr (h.imp fun _ _ hfg => hfg.equivalent) subject).1
    rw [holds_all, holds_all, hparts]
    rcases horder with rfl | ⟨-, hperm⟩
    · rfl
    · exact hperm.all_eq
  · intro hmoved
    rw [eq_of_forall₂ h hmoved]
    rcases horder with rfl | ⟨hyes, -⟩
    · rfl
    · exact absurd hyes hmoved

theorem SameUnless.any (h : List.Forall₂ (SameUnless moved) fs gs) :
    SameUnless moved (any fs) (any gs) := by
  refine ⟨fun subject => ?_, fun hmoved => by rw [eq_of_forall₂ h hmoved]⟩
  rw [holds_any, holds_any]
  exact (all_holds_congr (h.imp fun _ _ hfg => hfg.equivalent) subject).2

theorem SameUnless.join (h : List.Forall₂ (SameUnless moved) fs gs) (combinator : Combinator) :
    SameUnless moved (combinator.join fs) (combinator.join gs) := by
  cases h with
  | nil => exact .refl _
  | cons hfg hrest =>
      cases combinator with
      | and => exact .all (.cons hfg hrest) (Or.inl rfl)
      | or => exact .any (.cons hfg hrest)

theorem SameUnless.scope (h : SameUnless moved f g) (field : String) :
    SameUnless moved (scope field f) (scope field g) := by
  refine ⟨fun subject => ?_, fun hmoved => by rw [h.eq hmoved]⟩
  rw [holds, holds]
  split
  · exact h.equivalent _
  · rfl

theorem SameUnless.some (h : SameUnless moved f g) (field : String) :
    SameUnless moved (some field f) (some field g) := by
  refine ⟨fun subject => ?_, fun hmoved => by rw [h.eq hmoved]⟩
  rw [holds, holds]
  split
  · simp only [h.equivalent _]
  · rfl

theorem SameUnless.within (h : SameUnless moved f g) (hops : List Field) :
    SameUnless moved (within hops f) (within hops g) := by
  induction hops with
  | nil => exact h
  | cons hop hops ih =>
      rw [Filter.within, Filter.within, List.foldr_cons, List.foldr_cons]
      split
      · exact ih.some hop.name
      · exact ih.scope hop.name

end Same

end Filter

/-! ### Respelled values -/

mutual

/-- The right value is the left one with its keys in another letter case. Members may stand in
another order where they may move. -/
inductive Json.Respelled (moved : Prop) : Json → Json → Prop
  | scalar {value : Json} (harray : ∀ items, value ≠ .array items)
      (hobject : ∀ members, value ≠ .object members) : Respelled moved value value
  | array {items others : List Json} (h : RespelledItems moved items others) :
      Respelled moved (.array items) (.array others)
  | object {members respelled others : List (String × Json)}
      (h : RespelledMembers moved members respelled) (horder : Reordered moved respelled others) :
      Respelled moved (.object members) (.object others)

inductive Json.RespelledItems (moved : Prop) : List Json → List Json → Prop
  | nil : RespelledItems moved [] []
  | cons {item other : Json} {items others : List Json} (h : Respelled moved item other)
      (hrest : RespelledItems moved items others) :
      RespelledItems moved (item :: items) (other :: others)

inductive Json.RespelledMembers (moved : Prop) :
    List (String × Json) → List (String × Json) → Prop
  | nil : RespelledMembers moved [] []
  | cons {key other : String} {value respelled : Json} {members others : List (String × Json)}
      (hkey : Text.sameName key other = true) (h : Respelled moved value respelled)
      (hrest : RespelledMembers moved members others) :
      RespelledMembers moved ((key, value) :: members) ((other, respelled) :: others)

end

mutual

theorem Json.respelled_refl (moved : Prop) (value : Json) : value.Respelled moved value := by
  match value with
  | .array items => exact .array (respelledItems_refl moved items)
  | .object members => exact .object (respelledMembers_refl moved members) (Or.inl rfl)
  | .null | .bool _ | .number _ | .text _ => exact .scalar (by simp) (by simp)

theorem Json.respelledItems_refl (moved : Prop) (items : List Json) :
    Json.RespelledItems moved items items := by
  match items with
  | [] => exact .nil
  | item :: items => exact .cons (respelled_refl moved item) (respelledItems_refl moved items)

theorem Json.respelledMembers_refl (moved : Prop) (members : List (String × Json)) :
    Json.RespelledMembers moved members members := by
  match members with
  | [] => exact .nil
  | (key, value) :: members =>
      exact .cons (Text.sameName_refl key) (respelled_refl moved value)
        (respelledMembers_refl moved members)

end

/-! ### Places of a document -/

namespace Filter

section Places

/-- What a combinator joins in a condition. -/
def Target.compileJoined (target : Target) (token : String) (combinator : Combinator) :
    Json → Except QueryError Filter
  | .array items => (target.compileAll items).map combinator.join
  | _ => .error (.malformedFilter (.combinatorNeedsArray token))

/-- A document within a document. -/
def compileDocument (schema : Schema) (error : QueryError) : Json → Except QueryError Filter
  | .object members => (compileMembers schema members).map all
  | _ => .error error

theorem compileDocuments_cons (schema : Schema) (key : String) (value : Json) (values : List Json) :
    compileDocuments schema key (value :: values) = (do
      let first ← compileDocument schema (.malformedFilter (.combinatorNeedsObjects key)) value
      let rest ← compileDocuments schema key values
      .ok (first :: rest)) := by
  rw [compileDocuments.eq_def]
  cases value <;> rfl

theorem Target.compileRequirement_joined {target : Target} {token : String}
    {combinator : Combinator} (htoken : Combinator.ofKey? token = Option.some combinator)
    (operand : Json) :
    target.compileRequirement token operand = target.compileJoined token combinator operand := by
  rw [Target.compileRequirement, htoken]
  cases operand <;> rfl

theorem Target.compileMembers_eq_mapM (target : Target) (members : List (String × Json)) :
    target.compileMembers members =
      members.mapM fun member => target.compileRequirement member.1 member.2 := by
  induction members with
  | nil => rfl
  | cons member members ih => rw [Target.compileMembers_cons, List.mapM_cons, ih]; rfl

theorem compileMembers_eq_mapM (schema : Schema) (members : List (String × Json)) :
    compileMembers schema members =
      members.mapM fun member => compileMember schema member.1 member.2 := by
  induction members with
  | nil => rw [compileMembers]; rfl
  | cons member members ih => rw [compileMembers, List.mapM_cons, ih]; rfl

theorem compileElements_eq_mapM (inner? : Option Schema) (target : Target) (text : String)
    (entries : List (String × Json)) :
    compileElements inner? target text entries =
      entries.mapM fun entry => compileEntry inner? target text entry.1 entry.2 := by
  induction entries with
  | nil => rw [compileElements]; rfl
  | cons entry entries ih =>
      rw [compileElements_cons, List.mapM_cons, ih]
      refine congrArg _ (funext fun first => ?_)
      cases entries.mapM fun entry => compileEntry inner? target text entry.1 entry.2 <;> rfl

end Places

end Filter

namespace Json

open RecordQuery.Filter (Target SameUnless)

/-- An operand is read alike, whatever it is compared with. -/
def SameOperand (a b : Json) : Prop :=
  ∀ kind nullable, coerce kind nullable a = coerce kind nullable b

/-- The values say the same in every place of a document. -/
structure Interchangeable (moved : Prop) (a b : Json) : Prop where
  operand : SameOperand a b
  operator : ∀ (target : Target) operator,
    target.compileOperator operator a = target.compileOperator operator b
  condition : ∀ target : Target, Alike (SameUnless moved) (target.compile a) (target.compile b)
  conditions : ∀ (target : Target) token other combinator, Alike (SameUnless moved)
    (target.compileJoined token combinator a) (target.compileJoined other combinator b)
  document : ∀ schema error other, Alike (SameUnless moved)
    (Filter.compileDocument schema error a) (Filter.compileDocument schema other b)
  documents : ∀ schema key other combinator, Alike (SameUnless moved)
    (Filter.compileJoined schema key combinator a) (Filter.compileJoined schema other combinator b)
  leaf : ∀ schema path, Alike (SameUnless moved)
    (Filter.compileLeaf schema path a) (Filter.compileLeaf schema path b)

/-- The items say the same, one by one, in every place of a document. -/
structure InterchangeableItems (moved : Prop) (items others : List Json) : Prop where
  operands : List.Forall₂ SameOperand items others
  conditions : ∀ target : Target, Alike (List.Forall₂ (SameUnless moved))
    (target.compileAll items) (target.compileAll others)
  documents : ∀ schema key other, Alike (List.Forall₂ (SameUnless moved))
    (Filter.compileDocuments schema key items) (Filter.compileDocuments schema other others)

/-- The members say the same, one by one, in every place of a document. -/
structure InterchangeableMembers (moved : Prop) (members others : List (String × Json)) : Prop where
  conditions : ∀ target : Target, Alike (List.Forall₂ (SameUnless moved))
    (target.compileMembers members) (target.compileMembers others)
  documents : ∀ schema, Alike (List.Forall₂ (SameUnless moved))
    (Filter.compileMembers schema members) (Filter.compileMembers schema others)
  elements : ∀ inner? target text, Alike (List.Forall₂ (SameUnless moved))
    (Filter.compileElements inner? target text members)
    (Filter.compileElements inner? target text others)

section Values

variable {moved : Prop} {a b : Json} {items others : List Json}
  {members respelled reordered : List (String × Json)}

/-! ### One lemma for each form of a value -/

theorem Interchangeable.scalar {value : Json} (harray : ∀ items, value ≠ .array items)
    (hobject : ∀ members, value ≠ .object members) : Interchangeable moved value value where
  operand _ _ := rfl
  operator _ _ := rfl
  condition _ := .refl .refl _
  conditions _ token other _ := by
    cases value with
    | array items => exact absurd rfl (harray items)
    | _ => exact .error _ _
  document _ error other := by
    cases value with
    | object members => exact absurd rfl (hobject members)
    | _ => exact .error _ _
  documents _ key other _ := by
    cases value with
    | array items => exact absurd rfl (harray items)
    | _ => exact .error _ _
  leaf _ _ := .refl .refl _

theorem coerceAll_congr {kind : Kind} {nullable : Bool}
    (h : List.Forall₂ SameOperand items others) :
    coerceAll kind nullable items = coerceAll kind nullable others := by
  induction h with
  | nil => rfl
  | cons hitem _ ih => rw [coerceAll, coerceAll, hitem, ih]

theorem compileOperator_array (h : List.Forall₂ SameOperand items others) (target : Target)
    (operator : Operator) :
    target.compileOperator operator (.array items) =
      target.compileOperator operator (.array others) := by
  cases operator with
  | between =>
      rw [Filter.Target.compileOperator.eq_def, Filter.Target.compileOperator.eq_def]
      rcases h with _ | ⟨hlow, _ | ⟨hhigh, _ | ⟨_, _⟩⟩⟩
      · rfl
      · rfl
      · dsimp only
        rw [hlow, hhigh]
      · rfl
  | compare op ignoreCase negated =>
      have hoperand : target.operand op (.array items) = target.operand op (.array others) := by
        cases op with
        | isIn => rw [Target.operand, Target.operand, coerceAll_congr h]
        | _ => rfl
      rw [Target.compileOperator, Target.compileOperator, hoperand]

/-- An array is asked of a scalar only. -/
theorem alike_compileLeaf_array {schema : Schema} {path : Path}
    (h : Alike (SameUnless moved) ((Target.ofLeaf path.leaf).compile (.array items))
      ((Target.ofLeaf path.leaf).compile (.array others))) :
    Alike (SameUnless moved) (Filter.compileLeaf schema path (.array items))
      (Filter.compileLeaf schema path (.array others)) := by
  rw [Filter.compileLeaf.eq_def, Filter.compileLeaf.eq_def]
  split
  · exact .error _ _
  · split
    · cases schema.nested? path.leaf <;> exact .error _ _
    · exact h

theorem Interchangeable.array (h : InterchangeableItems moved items others) :
    Interchangeable moved (.array items) (.array others) := by
  have hcondition : ∀ target : Target, Alike (SameUnless moved) (target.compile (.array items))
      (target.compile (.array others)) := by
    intro target
    rw [Target.compile, Target.compile, coerceAll_congr h.operands]
    exact .refl .refl _
  exact {
    operand _ _ := rfl
    operator := compileOperator_array h.operands
    condition := hcondition
    conditions target _ _ combinator :=
      (h.conditions target).map fun _ _ hfilters => .join hfilters combinator
    document _ _ _ := .error _ _
    documents schema key other combinator :=
      (h.documents schema key other).map fun _ _ hfilters => .join hfilters combinator
    leaf _ path := alike_compileLeaf_array (hcondition (.ofLeaf path.leaf)) }

/-- Conjoined members may be respelled and then put in another order. -/
theorem alike_all {ε : Type} {left respelled right : Except ε (List Filter)}
    (h : Alike (List.Forall₂ (SameUnless moved)) left respelled)
    (horder : Alike (Reordered moved) respelled right) :
    Alike (SameUnless moved) (left.map Filter.all) (right.map Filter.all) := by
  refine (h.trans horder).map ?_
  rintro fs gs ⟨hs, hsame, hreordered⟩
  exact .all hsame hreordered

theorem InterchangeableMembers.conjoined (h : InterchangeableMembers moved members respelled)
    (horder : Reordered moved respelled reordered) (schema : Schema) :
    Alike (SameUnless moved) ((Filter.compileMembers schema members).map Filter.all)
      ((Filter.compileMembers schema reordered).map Filter.all) := by
  refine alike_all (h.documents schema) ?_
  simp only [Filter.compileMembers_eq_mapM]
  exact horder.mapM _

theorem Interchangeable.object (h : InterchangeableMembers moved members respelled)
    (horder : Reordered moved respelled reordered) :
    Interchangeable moved (.object members) (.object reordered) := by
  have hcondition : ∀ target : Target, Alike (SameUnless moved) (target.compile (.object members))
      (target.compile (.object reordered)) := by
    intro target
    rw [Target.compile, Target.compile]
    refine alike_all (h.conditions target) ?_
    simp only [Target.compileMembers_eq_mapM]
    exact horder.mapM _
  have helements : ∀ inner? target text, Alike (SameUnless moved)
      ((Filter.compileElements inner? target text members).map Filter.all)
      ((Filter.compileElements inner? target text reordered).map Filter.all) := by
    intro inner? target text
    refine alike_all (h.elements inner? target text) ?_
    simp only [Filter.compileElements_eq_mapM]
    exact horder.mapM _
  exact {
    operand _ _ := rfl
    operator target operator := by
      cases operator with
      | between => rfl
      | compare op _ _ => cases op <;> rfl
    condition := hcondition
    conditions _ _ _ _ := .error _ _
    document schema _ _ := h.conjoined horder schema
    documents _ _ _ _ := .error _ _
    leaf schema path := by
      rw [Filter.compileLeaf.eq_def, Filter.compileLeaf.eq_def]
      split
      · have hsome := (helements (schema.nested? path.leaf) (.ofElement path.leaf) path.text).map
          fun _ _ hfilter => hfilter.some path.leaf.name
        rwa [Filter.except_map_map, Filter.except_map_map] at hsome
      · split
        · cases schema.nested? path.leaf with
          | none => exact .error _ _
          | some inner =>
              have hscope := (h.conjoined horder inner).map fun _ _ hfilter =>
                hfilter.scope path.leaf.name
              rwa [Filter.except_map_map, Filter.except_map_map] at hscope
        · exact hcondition (.ofLeaf path.leaf) }

/-! ### Keys -/

namespace Interchangeable

variable (h : Interchangeable moved a b) {key other : String}
  (hkey : Text.sameName key other = true)

include h hkey

theorem requirement (target : Target) :
    Alike (SameUnless moved) (target.compileRequirement key a)
      (target.compileRequirement other b) := by
  have hcombinator := Combinator.ofKey?_caseBlind.congr hkey
  have htoken := Operator.ofToken?_caseBlind.congr hkey
  cases hjoined : Combinator.ofKey? other with
  | some combinator =>
      rw [Target.compileRequirement_joined (hcombinator.trans hjoined),
        Target.compileRequirement_joined hjoined]
      exact h.conditions target key other combinator
  | none =>
      rw [Target.compileRequirement, Target.compileRequirement, hcombinator, hjoined, htoken]
      cases Operator.ofToken? other with
      | none => exact .error _ _
      | some operator =>
          dsimp only
          rw [h.operator]
          exact .refl .refl _

theorem member (schema : Schema) :
    Alike (SameUnless moved) (Filter.compileMember schema key a)
      (Filter.compileMember schema other b) := by
  have hcombinator := Combinator.ofKey?_caseBlind.congr hkey
  have hdollar := startsWithDollar_caseBlind.congr hkey
  have hpath := schema.resolve?_caseBlind.congr hkey
  cases hjoined : Combinator.ofKey? other with
  | some combinator =>
      rw [Filter.compileMember_joined (hcombinator.trans hjoined),
        Filter.compileMember_joined hjoined]
      exact h.documents schema key other combinator
  | none =>
      cases hreserved : Filter.startsWithDollar other with
      | true =>
          rw [Filter.compileMember_reserved (hcombinator.trans hjoined) (hdollar.trans hreserved),
            Filter.compileMember_reserved hjoined hreserved]
          exact .error _ _
      | false =>
          cases hresolved : schema.resolve? other with
          | none =>
              rw [Filter.compileMember_unresolved (hdollar.trans hreserved)
                (hpath.trans hresolved), Filter.compileMember_unresolved hreserved hresolved]
              exact .error _ _
          | some path =>
              rw [Filter.compileMember_path (hdollar.trans hreserved) (hpath.trans hresolved),
                Filter.compileMember_path hreserved hresolved]
              exact (h.leaf schema path).map fun _ _ hfilter => hfilter.within path.before

theorem entry (inner? : Option Schema) (target : Target) (text : String) :
    Alike (SameUnless moved) (Filter.compileEntry inner? target text key a)
      (Filter.compileEntry inner? target text other b) := by
  have hany := (Text.sameName_caseBlind Filter.anyKey).congr hkey
  have hcombinator := Combinator.ofKey?_caseBlind.congr hkey
  have hdollar := startsWithDollar_caseBlind.congr hkey
  rw [Filter.compileEntry.eq_def, Filter.compileEntry.eq_def, hany, hcombinator, hdollar]
  split
  · cases inner? with
    | none => exact h.condition target
    | some inner => exact h.document inner (.ambiguousCollection text) (.ambiguousCollection text)
  · split
    · exact .error _ _
    · cases inner? with
      | none => exact .error _ _
      | some inner =>
          exact (h.member hkey inner).map fun _ _ hfilter =>
            .all (.cons hfilter .nil) (Or.inl rfl)

end Interchangeable

/-! ### Lists of values -/

theorem InterchangeableItems.nil : InterchangeableItems moved [] [] where
  operands := .nil
  conditions _ := .ok .nil
  documents _ _ _ := .ok .nil

theorem InterchangeableItems.cons (h : Interchangeable moved a b)
    (hrest : InterchangeableItems moved items others) :
    InterchangeableItems moved (a :: items) (b :: others) where
  operands := .cons h.operand hrest.operands
  conditions target := (h.condition target).cons (hrest.conditions target)
  documents schema key other := by
    rw [Filter.compileDocuments_cons, Filter.compileDocuments_cons]
    exact (h.document schema _ _).cons (hrest.documents schema key other)

theorem InterchangeableMembers.nil : InterchangeableMembers moved [] [] where
  conditions _ := .ok .nil
  documents _ := .ok .nil
  elements _ _ _ := .ok .nil

theorem InterchangeableMembers.cons {key other : String} (hkey : Text.sameName key other = true)
    (h : Interchangeable moved a b) (hrest : InterchangeableMembers moved members respelled) :
    InterchangeableMembers moved ((key, a) :: members) ((other, b) :: respelled) where
  conditions target := by
    rw [Target.compileMembers_cons, Target.compileMembers_cons]
    exact (h.requirement hkey target).cons (hrest.conditions target)
  documents schema := by
    rw [Filter.compileMembers, Filter.compileMembers]
    exact (h.member hkey schema).cons (hrest.documents schema)
  elements inner? target text := by
    rw [Filter.compileElements_cons, Filter.compileElements_cons]
    exact (h.entry hkey inner? target text).bind fun _ _ hfirst =>
      (hrest.elements inner? target text).map fun _ _ hfilters => .cons hfirst hfilters

end Values

/-! ### Whole documents -/

mutual

/-- **Respelled values say the same in every place of a document.** -/
theorem Respelled.interchangeable {moved : Prop} {a b : Json} (h : Respelled moved a b) :
    Interchangeable moved a b := by
  cases h with
  | scalar harray hobject => exact .scalar harray hobject
  | array hitems => exact .array (RespelledItems.interchangeable hitems)
  | object hmembers horder => exact .object (RespelledMembers.interchangeable hmembers) horder

theorem RespelledItems.interchangeable {moved : Prop} {items others : List Json}
    (h : RespelledItems moved items others) : InterchangeableItems moved items others := by
  cases h with
  | nil => exact .nil
  | cons hitem hrest =>
      exact .cons (Respelled.interchangeable hitem) (RespelledItems.interchangeable hrest)

theorem RespelledMembers.interchangeable {moved : Prop} {members respelled : List (String × Json)}
    (h : RespelledMembers moved members respelled) :
    InterchangeableMembers moved members respelled := by
  cases h with
  | nil => exact .nil
  | cons hkey hvalue hrest =>
      exact .cons hkey (Respelled.interchangeable hvalue) (RespelledMembers.interchangeable hrest)

end

/-- **A respelled document compiles to the same filter**, with its parts in another order where
members moved. -/
theorem Respelled.compile {moved : Prop} {a b : Json} (h : a.Respelled moved b) (schema : Schema) :
    Alike (SameUnless moved) (Filter.compile schema a) (Filter.compile schema b) := by
  cases h with
  | scalar _ _ => exact .refl .refl _
  | array _ => exact .error _ _
  | object hmembers horder => exact hmembers.interchangeable.conjoined horder schema

end Json

end RecordQuery
