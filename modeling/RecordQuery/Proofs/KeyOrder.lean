import RecordQuery.Proofs.FilterMeaning
import RecordQuery.Proofs.Path
import RecordQuery.Proofs.ValueOrder
import RecordQuery.SortOrder

/-!
# The order of records and boundaries

A sort order compares records by the tuples of their key values. On records whose keys are absent or
of their declared kinds this is a total preorder, and reversing the sort order reverses it. The
keyset filter of a boundary accepts a record exactly when the tuple of the record stands after the
boundary in the same order.
-/

namespace RecordQuery

theorem Direction.apply_reversed (dir : Direction) (ordering : Ordering) :
    dir.reversed.apply ordering = (dir.apply ordering).swap := by
  cases dir <;> simp [reversed, apply]

instance (dir : Direction) {α : Type} {cmp : α → α → Ordering} [Std.TransCmp cmp] :
    Std.TransCmp fun a b => dir.apply (cmp a b) := by
  cases dir with
  | asc => exact inferInstanceAs (Std.TransCmp cmp)
  | desc =>
      have hswap : (fun a b => Direction.desc.apply (cmp a b)) = fun a b => cmp b a := by
        funext a b
        exact (@Std.OrientedCmp.eq_swap α cmp _ b a).symm
      rw [hswap]
      infer_instance

theorem transCmp_comap {α β : Type} (cmp : β → β → Ordering) [Std.TransCmp cmp] (f : α → β) :
    Std.TransCmp fun a b => cmp (f a) (f b) where
  eq_swap {a b} := @Std.OrientedCmp.eq_swap β cmp _ (f a) (f b)
  isLE_trans {a b c} := @Std.TransCmp.isLE_trans β cmp _ (f a) (f b) (f c)

/-! ### Tuples -/

/-- The lexicographic order of tuples, each place in its direction. Missing places read as
absent. -/
def tupleOrder : List Direction → List Value → List Value → Ordering
  | [] => fun _ _ => .eq
  | dir :: dirs => compareLex
      (fun a b => dir.apply (Value.order (a.headD .absent) (b.headD .absent)))
      (fun a b => tupleOrder dirs a.tail b.tail)

instance (dirs : List Direction) : Std.TransCmp (tupleOrder dirs) := by
  induction dirs with
  | nil => exact { eq_swap := rfl, isLE_trans := fun _ _ => rfl }
  | cons dir dirs ih =>
      have hhead := transCmp_comap (fun a b => dir.apply (Value.order a b))
        fun tuple : List Value => tuple.headD .absent
      have htail := transCmp_comap (tupleOrder dirs) List.tail
      exact inferInstanceAs (Std.TransCmp (compareLex _ _))

theorem tupleOrder_cons (dir : Direction) (dirs : List Direction) (a b : Value)
    (as bs : List Value) :
    tupleOrder (dir :: dirs) (a :: as) (b :: bs) =
      (dir.apply (Value.order a b)).then (tupleOrder dirs as bs) := rfl

theorem tupleOrder_reversed (dirs : List Direction) (as bs : List Value) :
    tupleOrder (dirs.map Direction.reversed) as bs = (tupleOrder dirs as bs).swap := by
  induction dirs generalizing as bs with
  | nil => rfl
  | cons dir dirs ih =>
      rw [List.map_cons, tupleOrder, tupleOrder, compareLex, compareLex, ih,
        Direction.apply_reversed, Ordering.swap_then]

theorem tupleOrder_congr_right (dirs : List Direction) (as : List Value) {bs cs : List Value}
    (h : bs.map Value.rank = cs.map Value.rank) :
    tupleOrder dirs as bs = tupleOrder dirs as cs := by
  induction dirs generalizing as bs cs with
  | nil => rfl
  | cons dir dirs ih =>
      have hhead : (bs.headD .absent).rank = (cs.headD .absent).rank := by
        cases bs <;> cases cs <;> simp_all
      have htail : bs.tail.map Value.rank = cs.tail.map Value.rank := by
        rw [List.map_tail, List.map_tail, h]
      rw [tupleOrder, compareLex, compareLex, ih as.tail htail, Value.order_congr_right hhead]

namespace SortOrder

def directions (order : SortOrder) : List Direction :=
  order.keys.map SortKey.dir

def tuple (order : SortOrder) (r : Record) : List Value :=
  order.keys.map fun key => key.path.read r

/-- Each key of the record is absent or of its declared kind. -/
def Fits (order : SortOrder) (r : Record) : Prop :=
  ∀ key ∈ order.keys, (key.path.read r).Fits key.path.leaf.kind

def tupleCompare (order : SortOrder) (a b : Record) : Ordering :=
  tupleOrder order.directions (order.tuple a) (order.tuple b)

instance (order : SortOrder) : Std.TransCmp order.tupleCompare :=
  transCmp_comap (tupleOrder order.directions) order.tuple

theorem compareKeys_eq_tupleOrder {keys : List SortKey} {a b : Record}
    (ha : ∀ key ∈ keys, (key.path.read a).Fits key.path.leaf.kind)
    (hb : ∀ key ∈ keys, (key.path.read b).Fits key.path.leaf.kind) :
    compareKeys a b keys = tupleOrder (keys.map SortKey.dir) (keys.map fun key => key.path.read a)
      (keys.map fun key => key.path.read b) := by
  induction keys with
  | nil => rfl
  | cons key keys ih =>
      rw [List.map_cons, List.map_cons, List.map_cons, tupleOrder_cons, compareKeys,
        ih (fun k hk => ha k (by simp [hk])) (fun k hk => hb k (by simp [hk])), SortKey.compare,
        Value.compare?_eq_order (ha key (by simp)) (hb key (by simp))]

/-- **Records are compared by their tuples.** -/
theorem compare_eq_tupleCompare {order : SortOrder} {a b : Record} (ha : order.Fits a)
    (hb : order.Fits b) : order.compare a b = order.tupleCompare a b :=
  compareKeys_eq_tupleOrder ha hb

theorem directions_reversed (order : SortOrder) :
    order.reversed.directions = order.directions.map Direction.reversed := by
  simp [reversed, directions, Function.comp_def, SortKey.reversed]

theorem tuple_reversed (order : SortOrder) (r : Record) :
    order.reversed.tuple r = order.tuple r := by
  simp [reversed, tuple, Function.comp_def, SortKey.reversed]

theorem fits_reversed {order : SortOrder} {r : Record} (h : order.Fits r) :
    order.reversed.Fits r := by
  intro key hkey
  obtain ⟨original, horiginal, rfl⟩ := List.mem_map.mp hkey
  exact h original horiginal

theorem tupleCompare_reversed (order : SortOrder) (a b : Record) :
    order.reversed.tupleCompare a b = order.tupleCompare b a := by
  rw [tupleCompare, directions_reversed, tuple_reversed, tuple_reversed, tupleOrder_reversed]
  exact (@Std.OrientedCmp.eq_swap _ (tupleOrder order.directions) _ _ _).symm

/-! ### Boundaries -/

end SortOrder

/-- Where a record stands to a boundary value in one key: values that are absent come after all
others and are level with null, and the direction of the key applies to both. -/
def SortKey.standing (key : SortKey) (r : Record) (operand : Operand) : Ordering :=
  match (key.path.read r).sortOrder? operand with
  | some ordering => key.dir.apply ordering
  | none => .eq

namespace SortOrder

def standingIn (r : Record) : List SortKey → List Operand → Ordering
  | key :: keys, operand :: operands =>
    (key.standing r operand).then (standingIn r keys operands)
  | _, _ => .eq

/-- Where a record stands to a boundary: the first key that tells them apart decides. -/
def standing (order : SortOrder) (r : Record) (boundary : List Operand) : Ordering :=
  standingIn r order.keys boundary

/-- One boundary value for each key, null or of the kind of the key. -/
def FitsBoundary (order : SortOrder) (boundary : List Operand) : Prop :=
  List.Forall₂ (fun key operand => operand.Fits key.path.leaf.kind) order.keys boundary

theorem standingIn_eq_tupleOrder {keys : List SortKey} {r : Record} {boundary : List Operand}
    (hr : ∀ key ∈ keys, (key.path.read r).Fits key.path.leaf.kind)
    (hboundary : List.Forall₂ (fun key operand => operand.Fits key.path.leaf.kind) keys boundary) :
    standingIn r keys boundary = tupleOrder (keys.map SortKey.dir)
      (keys.map fun key => key.path.read r) (boundary.map Operand.toValue) := by
  induction hboundary with
  | nil => rfl
  | @cons key operand keys operands hoperand _ ih =>
      rw [List.map_cons, List.map_cons, List.map_cons, tupleOrder_cons, standingIn,
        ih fun k hk => hr k (by simp [hk]), SortKey.standing,
        Value.sortOrder?_eq_order (hr key (by simp)) hoperand]

theorem standing_eq_tupleOrder {order : SortOrder} {r : Record} {boundary : List Operand}
    (hr : order.Fits r) (hboundary : order.FitsBoundary boundary) :
    order.standing r boundary =
      tupleOrder order.directions (order.tuple r) (boundary.map Operand.toValue) :=
  standingIn_eq_tupleOrder hr hboundary

/-- The values of the boundary are those of the keys of the record, up to their form. -/
def Captures (order : SortOrder) (r : Record) (boundary : List Operand) : Prop :=
  order.FitsBoundary boundary ∧
    (boundary.map Operand.toValue).map Value.rank = (order.tuple r).map Value.rank

theorem fitsBoundary_reversed {order : SortOrder} {boundary : List Operand}
    (h : order.FitsBoundary boundary) : order.reversed.FitsBoundary boundary := by
  rw [FitsBoundary, reversed, List.forall₂_map_left_iff]
  exact h

theorem standing_reversed {order : SortOrder} {r : Record} {boundary : List Operand}
    (hr : order.Fits r) (hboundary : order.FitsBoundary boundary) :
    order.reversed.standing r boundary = (order.standing r boundary).swap := by
  rw [standing_eq_tupleOrder (fits_reversed hr) (fitsBoundary_reversed hboundary),
    standing_eq_tupleOrder hr hboundary, directions_reversed, tuple_reversed, tupleOrder_reversed]

/-! ### Compiled orders -/

/-- What compiling makes of a text: paths without dots in their names, keys with distinct texts, and
a tie-breaker that is one of the keys. -/
structure WellFormed (order : SortOrder) : Prop where
  undotted : ∀ key ∈ order.keys, key.path.Undotted
  distinct : (order.keys.map fun key => key.path.text).Nodup
  tie : ∀ text, order.tieBreaker = some text → ∃ key ∈ order.keys, key.path.text = text

/-- What can be sorted by: a scalar that no collection leads to. -/
def Sortable (path : Path) : Prop :=
  (path.crossesCollection || path.leaf.collection || path.leaf.kind == .object) = false

theorem readKey_eq_ok {schema : Schema} {entry : String} {key : SortKey} :
    readKey schema entry = .ok key ↔ ∃ text, splitEntry entry = .ok (text, key.dir) ∧
      schema.resolve? text = some key.path ∧ Sortable key.path := by
  rw [readKey]
  cases hsplit : splitEntry entry with
  | error error => simp [bind, Except.bind]
  | ok parts =>
      obtain ⟨text, dir⟩ := parts
      simp only [bind, Except.bind, Except.ok.injEq, Prod.mk.injEq]
      cases hpath : schema.resolve? text with
      | none =>
          simp only [reduceCtorEq, false_iff]
          rintro ⟨t, ⟨rfl, -⟩, hresolved, -⟩
          rw [hpath] at hresolved
          cases hresolved
      | some path =>
          dsimp only
          split
          next hno =>
            simp only [reduceCtorEq, false_iff]
            rintro ⟨t, ⟨rfl, -⟩, hresolved, hsortable⟩
            rw [hpath] at hresolved
            cases hresolved
            rw [Sortable, hno] at hsortable
            cases hsortable
          next hyes =>
            rw [Except.ok.injEq]
            constructor
            · rintro rfl
              exact ⟨text, ⟨rfl, rfl⟩, hpath, Bool.eq_false_iff.mpr hyes⟩
            · rintro ⟨t, ⟨rfl, rfl⟩, hresolved, -⟩
              rw [hpath] at hresolved
              cases hresolved
              rfl

theorem readKey_undotted {schema : Schema} {entry : String} {key : SortKey}
    (h : readKey schema entry = .ok key) : key.path.Undotted := by
  obtain ⟨text, -, hpath, -⟩ := readKey_eq_ok.mp h
  exact Schema.resolve?_undotted hpath

theorem addKey_texts_nodup {keys : List SortKey} {key : SortKey}
    (h : (keys.map fun k => k.path.text).Nodup) :
    ((addKey keys key).map fun k => k.path.text).Nodup := by
  rw [addKey]
  split
  next hnew =>
    rw [List.map_append, List.nodup_append]
    refine ⟨h, by simp, ?_⟩
    intro text htext other hother heq
    obtain ⟨k, hk, rfl⟩ := List.mem_map.mp htext
    rw [List.map_singleton, List.mem_singleton] at hother
    have hne := List.all_eq_true.mp hnew k hk
    simp [heq, hother] at hne
  next => exact h

theorem mem_addKey {keys : List SortKey} {key k : SortKey} (h : k ∈ addKey keys key) :
    k ∈ keys ∨ k = key := by
  rw [addKey] at h
  split at h
  · simpa using h
  · exact Or.inl h

theorem exists_mem_addKey (keys : List SortKey) (key : SortKey) :
    ∃ k ∈ addKey keys key, k.path.text = key.path.text := by
  rw [addKey]
  split
  next => exact ⟨key, by simp, rfl⟩
  next hold =>
    simp only [List.all_eq_true, not_forall] at hold
    obtain ⟨k, hk, heq⟩ := hold
    exact ⟨k, hk, by simpa using heq⟩

/-- Each key was there before or is read from one of the entries. -/
theorem readKeys_origin {schema : Schema} {entries : List String} {keys read : List SortKey}
    (h : readKeys schema keys entries = .ok read) :
    ∀ key ∈ read, key ∈ keys ∨ ∃ entry ∈ entries, readKey schema entry = .ok key := by
  induction entries generalizing keys with
  | nil =>
      cases h
      exact fun key hkey => Or.inl hkey
  | cons entry entries ih =>
      rw [readKeys] at h
      cases hfirst : readKey schema entry with
      | error error => simp [hfirst, bind, Except.bind] at h
      | ok first =>
          simp only [hfirst, bind, Except.bind] at h
          intro key hkey
          rcases ih h key hkey with hkey | ⟨other, hother, hread⟩
          · rcases mem_addKey hkey with hkey | rfl
            · exact Or.inl hkey
            · exact Or.inr ⟨entry, by simp, hfirst⟩
          · exact Or.inr ⟨other, by simp [hother], hread⟩

theorem readKeys_texts_nodup {schema : Schema} {entries : List String} {keys read : List SortKey}
    (h : readKeys schema keys entries = .ok read)
    (hdistinct : (keys.map fun key => key.path.text).Nodup) :
    (read.map fun key => key.path.text).Nodup := by
  induction entries generalizing keys with
  | nil =>
      cases h
      exact hdistinct
  | cons entry entries ih =>
      rw [readKeys] at h
      cases hkey : readKey schema entry with
      | error error => simp [hkey, bind, Except.bind] at h
      | ok key =>
          simp only [hkey, bind, Except.bind] at h
          exact ih h (addKey_texts_nodup hdistinct)

/-- The text of a tie-breaker that is not blank, without blanks at its ends. -/
def effectiveTie (tieBreaker : Option String) : Option String :=
  (tieBreaker.map Text.trim).filter fun tie => !tie.isEmpty

/-- How an order is compiled, without a tie-breaker and with one. -/
theorem compile_eq_ok {schema : Schema} {text : String} {tieBreaker : Option String}
    {order : SortOrder} :
    compile schema text tieBreaker = .ok order ↔
      ∃ keys, readKeys schema [] (entries text) = .ok keys ∧
        ((effectiveTie tieBreaker = none ∧ order = ⟨keys, none⟩) ∨
          ∃ tie key, effectiveTie tieBreaker = some tie ∧ readKey schema tie = .ok key ∧
            order = ⟨addKey keys key, some key.path.text⟩) := by
  rw [compile, ← effectiveTie]
  cases hkeys : readKeys schema [] (entries text) with
  | error error => simp [bind, Except.bind]
  | ok keys =>
      simp only [bind, Except.bind, Except.ok.injEq, exists_eq_left']
      cases effectiveTie tieBreaker with
      | none => simp [eq_comm]
      | some tie => cases hlast : readKey schema tie <;> simp [hlast, eq_comm]

theorem compile_origin {schema : Schema} {text : String} {tieBreaker : Option String}
    {order : SortOrder} (h : compile schema text tieBreaker = .ok order) :
    ∀ key ∈ order.keys, ∃ entry, (entry ∈ entries text ∨ effectiveTie tieBreaker = some entry) ∧
      readKey schema entry = .ok key := by
  obtain ⟨keys, hkeys, ⟨-, rfl⟩ | ⟨tie, last, htie, hlast, rfl⟩⟩ := compile_eq_ok.mp h
  · intro key hkey
    rcases readKeys_origin hkeys key hkey with hnil | ⟨entry, hentry, hread⟩
    · cases hnil
    · exact ⟨entry, Or.inl hentry, hread⟩
  · intro key hkey
    rcases mem_addKey hkey with hkey | rfl
    · rcases readKeys_origin hkeys key hkey with hnil | ⟨entry, hentry, hread⟩
      · cases hnil
      · exact ⟨entry, Or.inl hentry, hread⟩
    · exact ⟨tie, Or.inr htie, hlast⟩

theorem wellFormed_of_compile {schema : Schema} {text : String} {tieBreaker : Option String}
    {order : SortOrder} (h : compile schema text tieBreaker = .ok order) : order.WellFormed := by
  refine ⟨?_, ?_, ?_⟩
  · intro key hkey
    obtain ⟨entry, -, hread⟩ := compile_origin h key hkey
    exact readKey_undotted hread
  · obtain ⟨keys, hkeys, ⟨-, rfl⟩ | ⟨tie, last, -, -, rfl⟩⟩ := compile_eq_ok.mp h
    · exact readKeys_texts_nodup hkeys List.nodup_nil
    · exact addKey_texts_nodup (readKeys_texts_nodup hkeys List.nodup_nil)
  · intro t ht
    obtain ⟨keys, -, ⟨-, rfl⟩ | ⟨tie, last, -, -, rfl⟩⟩ := compile_eq_ok.mp h
    · cases ht
    · cases ht
      exact exists_mem_addKey keys last

theorem WellFormed.reversed {order : SortOrder} (h : order.WellFormed) :
    order.reversed.WellFormed where
  undotted key hkey := by
    obtain ⟨original, horiginal, rfl⟩ := List.mem_map.mp hkey
    exact h.undotted original horiginal
  distinct := by
    simpa [SortOrder.reversed, Function.comp_def, SortKey.reversed] using h.distinct
  tie text htext := by
    obtain ⟨key, hkey, hpath⟩ := h.tie text htext
    exact ⟨key.reversed, List.mem_map.mpr ⟨key, hkey, rfl⟩, hpath⟩

/-! ### The keyset filter -/

end SortOrder

namespace SortKey

theorem holds_clause {key : SortKey} {r : Record} (hpath : key.path.Undotted)
    (hfits : (key.path.read r).Fits key.path.leaf.kind) (op : Op) (operand : Operand) :
    (key.clause op operand).holds (.record r) =
      (Clause.mk none op operand false).holds (key.path.read r) := by
  have hread : r.readPath key.path.text = key.path.read r :=
    Path.readPath_text hpath hfits.ne_list
  rw [clause, Filter.holds, Subject.read, hread]
  rfl

theorem holds_level {key : SortKey} {r : Record} {operand : Operand}
    (hpath : key.path.Undotted) (hfits : (key.path.read r).Fits key.path.leaf.kind)
    (hoperand : operand.Fits key.path.leaf.kind) :
    (key.clause .eq operand).holds (.record r) = (key.standing r operand == .eq) := by
  rw [holds_clause hpath hfits]
  change Clause.equals false operand (key.path.read r) = _
  rw [Value.equals_eq_order hfits hoperand, standing, Value.sortOrder?_eq_order hfits hoperand]
  cases key.dir <;> cases Value.order (key.path.read r) operand.toValue <;> rfl

theorem holds_beyond {key : SortKey} {r : Record} {operand : Operand}
    (hpath : key.path.Undotted) (hfits : (key.path.read r).Fits key.path.leaf.kind)
    (hoperand : operand.Fits key.path.leaf.kind) :
    (key.beyond operand).holds (.record r) = (key.standing r operand == .gt) := by
  rw [beyond, holds_clause hpath hfits, standing]
  cases key.dir <;>
    simp only [Direction.isAsc, Clause.holds, Value.sortOrder?_eq_order hfits hoperand] <;>
    cases Value.order (key.path.read r) operand.toValue <;> rfl

end SortKey

namespace SortOrder

/-- The branches for the remaining keys hold when the keys before are level and the remaining ones
stand after the boundary. -/
theorem any_keysetBranches {keys : List SortKey} {boundary : List Operand} {r : Record}
    (hpath : ∀ key ∈ keys, key.path.Undotted)
    (hfits : ∀ key ∈ keys, (key.path.read r).Fits key.path.leaf.kind)
    (hboundary : List.Forall₂ (fun key operand => operand.Fits key.path.leaf.kind) keys boundary)
    (level : List Filter) :
    (keysetBranches level keys boundary).any (Filter.holds (.record r)) =
      (level.all (Filter.holds (.record r)) && standingIn r keys boundary == .gt) := by
  induction hboundary generalizing level with
  | nil => simp [keysetBranches, standingIn]
  | @cons key operand keys operands hoperand _ ih =>
      have hlevel := SortKey.holds_level (hpath key (by simp)) (hfits key (by simp)) hoperand
      have hbeyond := SortKey.holds_beyond (hpath key (by simp)) (hfits key (by simp)) hoperand
      rw [keysetBranches, List.any_cons, Filter.holds_all, List.all_append,
        ih (fun k hk => hpath k (by simp [hk])) (fun k hk => hfits k (by simp [hk])),
        List.all_append, standingIn]
      simp only [List.all_cons, List.all_nil, Bool.and_true, hlevel, hbeyond]
      -- the first branch decides unless the key is level, and then the later ones do
      cases level.all (Filter.holds (.record r)) <;> cases key.standing r operand <;>
        simp [Ordering.then]

/-- **The keyset filter accepts exactly the records that stand after the boundary.** -/
theorem accepts_keyset {order : SortOrder} {boundary : List Operand} {r : Record}
    (horder : order.WellFormed) (hr : order.Fits r) (hboundary : order.FitsBoundary boundary) :
    (order.keyset boundary).accepts r = (order.standing r boundary == .gt) := by
  rw [keyset, Filter.accepts, Filter.holds, Filter.holdsAny_eq,
    any_keysetBranches horder.undotted hr hboundary]
  simp [standing]

theorem accepts_keyset_reversed {order : SortOrder} {boundary : List Operand} {r : Record}
    (horder : order.WellFormed) (hr : order.Fits r) (hboundary : order.FitsBoundary boundary) :
    (order.reversed.keyset boundary).accepts r = (order.standing r boundary == .lt) := by
  rw [accepts_keyset horder.reversed (fits_reversed hr) (fitsBoundary_reversed hboundary),
    standing_reversed hr hboundary]
  cases order.standing r boundary <;> rfl

end SortOrder

end RecordQuery
