import RecordQuery.Proofs.KeyOrder

/-!
# The keyset filter and the comparison

The keyset filter of a boundary is built from clauses on the prefixes of the keys, and the
comparison of two records goes key by key. Both mean the lexicographic order of tuples: the filter
accepts the records whose first difference from the boundary points forward.
-/

namespace RecordQuery

namespace SortOrder

/-- The tuple of the record comes strictly after the boundary: it agrees with the boundary in some
keys, and the value of the next key comes after the one of the boundary in the direction of the
key. -/
def Exceeds (order : SortOrder) (r : Record) (boundary : List Operand) : Prop :=
  ∃ agreed key operand rest, order.keys.zip boundary = agreed ++ (key, operand) :: rest ∧
    (∀ pair ∈ agreed, (pair.1.path.read r).compare? pair.2.toValue = some .eq) ∧
    ((key.path.read r).compare? operand.toValue).map key.dir.apply = some .gt

/-- The values of the keys of a record as a boundary. -/
def boundaryOf (order : SortOrder) (r : Record) : List Operand :=
  (order.tuple r).map Operand.ofValue

theorem standing_eq_compare? {key : SortKey} {r : Record} {operand : Operand}
    (hr : (key.path.read r).Fits key.path.leaf.kind) (hoperand : operand.Fits key.path.leaf.kind) :
    ((key.path.read r).compare? operand.toValue).map key.dir.apply =
      some (key.standing r operand) := by
  rw [SortKey.standing, Value.sortOrder?_eq_order hr hoperand, Value.compare?_eq_order hr hoperand]
  rfl

theorem standing_eq_iff {key : SortKey} {r : Record} {operand : Operand}
    (hr : (key.path.read r).Fits key.path.leaf.kind) (hoperand : operand.Fits key.path.leaf.kind) :
    key.standing r operand = .eq ↔ (key.path.read r).compare? operand.toValue = some .eq := by
  have hstanding := standing_eq_compare? hr hoperand
  generalize key.standing r operand = ordering at hstanding ⊢
  generalize (key.path.read r).compare? operand.toValue = given at hstanding ⊢
  obtain ⟨given, rfl, rfl⟩ := Option.map_eq_some_iff.mp hstanding
  cases key.dir <;> cases given <;> simp [Direction.apply]

/-- A record stands after a boundary when the first key that tells them apart says so. -/
theorem standingIn_eq_gt_iff {keys : List SortKey} {boundary : List Operand} {r : Record}
    (hr : ∀ key ∈ keys, (key.path.read r).Fits key.path.leaf.kind)
    (hboundary : List.Forall₂ (fun key operand => operand.Fits key.path.leaf.kind) keys boundary) :
    standingIn r keys boundary = .gt ↔
      ∃ agreed key operand rest, keys.zip boundary = agreed ++ (key, operand) :: rest ∧
        (∀ pair ∈ agreed, (pair.1.path.read r).compare? pair.2.toValue = some .eq) ∧
        ((key.path.read r).compare? operand.toValue).map key.dir.apply = some .gt := by
  induction hboundary with
  | nil => simp [standingIn]
  | @cons key operand keys operands hoperand _ ih =>
      have hkey := hr key (by simp)
      rw [standingIn, Ordering.then_eq_gt, ih fun k hk => hr k (by simp [hk]),
        standing_eq_iff hkey hoperand, ← Option.some_inj (a := key.standing r operand),
        ← standing_eq_compare? hkey hoperand, List.zip_cons_cons]
      constructor
      · rintro (hgt | ⟨hlevel, agreed, k, o, rest, hzip, hagreed, hgt⟩)
        · exact ⟨[], key, operand, _, rfl, by simp, hgt⟩
        · refine ⟨(key, operand) :: agreed, k, o, rest, by rw [hzip]; rfl, ?_, hgt⟩
          exact List.forall_mem_cons.mpr ⟨hlevel, hagreed⟩
      · rintro ⟨agreed, k, o, rest, hzip, hagreed, hgt⟩
        cases agreed with
        | nil =>
            cases hzip
            exact Or.inl hgt
        | cons pair agreed =>
            obtain ⟨rfl, hrest⟩ := List.cons.inj hzip
            obtain ⟨hlevel, hagreed⟩ := List.forall_mem_cons.mp hagreed
            exact Or.inr ⟨hlevel, agreed, k, o, rest, hrest, hagreed, hgt⟩

theorem standing_eq_gt_iff {order : SortOrder} {r : Record} {boundary : List Operand}
    (hr : order.Fits r) (hboundary : order.FitsBoundary boundary) :
    order.standing r boundary = .gt ↔ order.Exceeds r boundary :=
  standingIn_eq_gt_iff hr hboundary

/-! ### Boundaries of records -/

theorem toValue_ofValue {kind : Kind} {value : Value} (h : value.Fits kind) :
    (Operand.ofValue value).toValue = value := by
  cases h <;> rfl

theorem captures_boundaryOf {order : SortOrder} {r : Record} (hr : order.Fits r) :
    order.Captures r (order.boundaryOf r) := by
  have hvalues : (order.boundaryOf r).map Operand.toValue = order.tuple r := by
    rw [boundaryOf, tuple, List.map_map, List.map_map]
    exact List.map_congr_left fun key hkey => toValue_ofValue (hr key hkey)
  refine ⟨?_, by rw [hvalues]⟩
  rw [FitsBoundary, boundaryOf, tuple, List.map_map, List.forall₂_map_right_iff, List.forall₂_same]
  intro key hkey
  change Value.Fits _ (Operand.ofValue (key.path.read r)).toValue
  rw [toValue_ofValue (hr key hkey)]
  exact hr key hkey

/-- Standing to the boundary of a record is comparing with the record. -/
theorem standing_boundaryOf {order : SortOrder} {a b : Record} (ha : order.Fits a)
    (hb : order.Fits b) : order.standing b (order.boundaryOf a) = order.compare b a := by
  obtain ⟨hfits, hranks⟩ := captures_boundaryOf ha
  rw [standing_eq_tupleOrder hb hfits, tupleOrder_congr_right _ _ hranks,
    compare_eq_tupleCompare hb ha]
  rfl

/-- **The keyset filter is the comparison.** For a compiled order and a boundary of its kinds, the
filter accepts a record exactly when the tuple of the record exceeds the boundary. With the values
of a record as the boundary, it accepts the records that compare greater, the filter of the reversed
order those that compare less, and neither accepts those that are level. -/
theorem keyset_iff_exceeds {schema : Schema} {text : String} {tieBreaker : Option String}
    {order : SortOrder} (hcompile : compile schema text tieBreaker = .ok order) :
    (∀ boundary r, order.FitsBoundary boundary → order.Fits r →
      ((order.keyset boundary).accepts r ↔ order.Exceeds r boundary)) ∧
    ∀ a b, order.Fits a → order.Fits b →
      ((order.keyset (order.boundaryOf a)).accepts b ↔ order.compare b a = .gt) ∧
      ((order.reversed.keyset (order.boundaryOf a)).accepts b ↔ order.compare b a = .lt) ∧
      (¬(order.keyset (order.boundaryOf a)).accepts b ∧
        ¬(order.reversed.keyset (order.boundaryOf a)).accepts b ↔ order.compare b a = .eq) := by
  have horder := wellFormed_of_compile hcompile
  constructor
  · intro boundary r hboundary hr
    rw [accepts_keyset horder hr hboundary, beq_iff_eq, standing_eq_gt_iff hr hboundary]
  · intro a b ha hb
    have hfits := (captures_boundaryOf ha).1
    rw [accepts_keyset horder hb hfits, accepts_keyset_reversed horder hb hfits,
      standing_boundaryOf ha hb]
    cases order.compare b a <;> simp

end SortOrder

/-! ### Visits -/

namespace Visit

def city : Field where
  name := "city"
  kind := .text

def place : Field where
  name := "place"
  kind := .object
  nullable := true
  nested := some 0

def id : Field where
  name := "id"
  kind := .number

def schema : Schema := ⟨[⟨"Place", [city]⟩], ⟨"Visit", [id, place]⟩⟩

/-- By the city of the place, the last one first. -/
def order : SortOrder := ⟨[⟨⟨[place], city⟩, .desc⟩, ⟨⟨[], id⟩, .asc⟩], some "id"⟩

def known : Record := [("id", .number (.signed 2)), ("place", .record [("city", .text "Oslo")])]

def unknown : Record := [("id", .number (.unsigned 1))]

theorem order_eq : SortOrder.compile schema "place.city:desc" (some "id") = .ok order := by
  cbv

theorem known_fits : order.Fits known := by
  simp only [SortOrder.Fits, order, List.forall_mem_cons]
  exact ⟨.text _, .signed _, by simp⟩

theorem unknown_fits : order.Fits unknown := by
  simp only [SortOrder.Fits, order, List.forall_mem_cons]
  exact ⟨.absent _, .unsigned _, by simp⟩

/-- A place that is not given comes first, and a known one after it. -/
theorem keyset_of_unknown :
    order.Fits unknown ∧ order.Fits known ∧ order.compare known unknown = .gt ∧
      (order.keyset (order.boundaryOf unknown)).accepts known ∧
      order.Exceeds known (order.boundaryOf unknown) := by
  have hgt : order.compare known unknown = .gt := by decide +kernel
  obtain ⟨hexceeds, hcompare⟩ := SortOrder.keyset_iff_exceeds order_eq
  have haccepts := (hcompare unknown known unknown_fits known_fits).1.mpr hgt
  have hboundary := (SortOrder.captures_boundaryOf unknown_fits).1
  exact ⟨unknown_fits, known_fits, hgt, haccepts,
    (hexceeds _ known hboundary known_fits).mp haccepts⟩

end Visit

end RecordQuery
