import RecordQuery.Proofs.TotalOrder
import RecordQuery.Proofs.WholeNumbers

/-!
# The order of numbers

Whole numbers are compared by value, and as soon as a floating-point number takes part both sides
are compared as such. Rounding keeps the order of whole numbers, but it may level them. So a
floating-point number can be level with two whole numbers of which one is greater than the other,
and but for such triples the comparison of numbers is a total preorder.
-/

namespace RecordQuery

namespace Binary64

/-- The place of a number in the order of floating-point numbers. -/
def level : Binary64 → Int
  | nan => 0
  | signed negative x => key negative x

theorem compare?_eq_level {x y : Binary64} (hx : x ≠ nan) (hy : y ≠ nan) :
    x.compare? y = some (compare x.level y.level) := by
  cases x with
  | nan => exact absurd rfl hx
  | signed s x =>
      cases y with
      | nan => exact absurd rfl hy
      | signed t y => rfl

theorem level_eq_of_compare? {x y : Binary64} (h : x.compare? y = some .eq) :
    x.level = y.level := by
  cases x <;> cases y <;> simp only [compare?, reduceCtorEq] at h
  exact Int.compare_eq_eq.mp (Option.some.inj h)

theorem ofInt_ne_nan (n : Int) : ofInt n ≠ nan := by
  rw [ofInt]
  simp

/-- **Rounding keeps the order of whole numbers.** -/
theorem level_ofInt_mono {m n : Int} (h : m ≤ n) : (ofInt m).level ≤ (ofInt n).level := by
  have hup : m.natAbs ≤ n.natAbs → _ := Magnitude.val_ofRatio_mono
  have hdown : n.natAbs ≤ m.natAbs → _ := Magnitude.val_ofRatio_mono
  rw [ofInt, ofInt, level, level, key, key]
  simp only [decide_eq_true_eq]
  split <;> split <;> omega

end Binary64

namespace Number

theorem toBinary64_ne_nan {n : Number} (h : n ≠ .real .nan) : n.toBinary64 ≠ .nan := by
  cases n with
  | signed n => exact Binary64.ofInt_ne_nan _
  | unsigned n => exact Binary64.ofInt_ne_nan _
  | real x => simpa [toBinary64] using h

theorem toBinary64_of_int {n : Number} {i : Int} (h : n.int? = some i) :
    n.toBinary64 = .ofInt i := by
  cases n <;> cases h <;> rfl

/-- The place of the floating-point form of a number. -/
def level (n : Number) : Int :=
  n.toBinary64.level

theorem level_mono {a b : Number} {i j : Int} (ha : a.int? = some i) (hb : b.int? = some j)
    (h : i ≤ j) : a.level ≤ b.level := by
  rw [level, level, toBinary64_of_int ha, toBinary64_of_int hb]
  exact Binary64.level_ofInt_mono h

theorem compare?_real {a b : Number} (h : a.int? = none ∨ b.int? = none) :
    a.compare? b = a.toBinary64.compare? b.toBinary64 := by
  cases a <;> cases b <;> first | rfl | simp [int?] at h

theorem compare?_level {a b : Number} (ha : a ≠ .real .nan) (hb : b ≠ .real .nan)
    (h : a.int? = none ∨ b.int? = none) : a.compare? b = some (compare a.level b.level) := by
  rw [compare?_real h]
  exact Binary64.compare?_eq_level (toBinary64_ne_nan ha) (toBinary64_ne_nan hb)

/-- Two numbers are compared by value if both are whole, and by their places otherwise. -/
theorem compare?_cases {a b : Number} (ha : a ≠ .real .nan) (hb : b ≠ .real .nan) :
    (∃ i j, a.int? = some i ∧ b.int? = some j ∧ a.compare? b = some (compare i j)) ∨
    ((a.int? = none ∨ b.int? = none) ∧ a.compare? b = some (compare a.level b.level)) := by
  cases hi : a.int? with
  | none => exact Or.inr ⟨Or.inl rfl, compare?_level ha hb (Or.inl hi)⟩
  | some i =>
      cases hj : b.int? with
      | none => exact Or.inr ⟨Or.inr rfl, compare?_level ha hb (Or.inr hj)⟩
      | some j => exact Or.inl ⟨i, j, rfl, rfl, by rw [compare?_int hj, hi]⟩

theorem level_le {a b : Number} (ha : a ≠ .real .nan) (hb : b ≠ .real .nan)
    (h : a.compare? b ≠ some .gt) : a.level ≤ b.level := by
  rcases compare?_cases ha hb with ⟨i, j, hi, hj, hcompare⟩ | ⟨-, hcompare⟩
  · refine level_mono hi hj ?_
    rwa [hcompare, Ne, Option.some.injEq, Int.compare_eq_gt, Int.not_lt] at h
  · rwa [hcompare, Ne, Option.some.injEq, Int.compare_eq_gt, Int.not_lt] at h

/-- Only one whole number has the place of an exact one. -/
theorem Exact.int_eq {a b : Number} {i j : Int} (h : a.Exact) (ha : a.int? = some i)
    (hb : b.int? = some j) (hlevel : b.level = a.level) : j = i := by
  have hcompare := compare?_exact h b
  rw [compare?_int ha, hb, toBinary64_of_int ha, toBinary64_of_int hb,
    Binary64.compare?_eq_level (Binary64.ofInt_ne_nan j) (Binary64.ofInt_ne_nan i),
    Option.some.injEq] at hcompare
  rw [level, level, toBinary64_of_int ha, toBinary64_of_int hb] at hlevel
  exact Int.compare_eq_eq.mp (hcompare.trans (Int.compare_eq_eq.mpr hlevel))

/-- The greater of two whole numbers, a floating-point number that is level with both of them, and
the smaller one. -/
def Collapsed (a b c : Number) : Prop :=
  ∃ i j, a.int? = some i ∧ c.int? = some j ∧ j < i ∧ b.int? = none ∧
    a.compare? b = some .eq ∧ b.compare? c = some .eq

/-- Both ends are beyond what floating-point numbers represent. -/
theorem Collapsed.not_exact {a b c : Number} (h : a.Collapsed b c) : ¬a.Exact ∧ ¬c.Exact := by
  obtain ⟨i, j, hi, hj, hlt, hreal, hfirst, hlast⟩ := h
  rw [compare?_real (Or.inr hreal)] at hfirst
  rw [compare?_real (Or.inl hreal)] at hlast
  have hlevel : a.level = c.level :=
    (Binary64.level_eq_of_compare? hfirst).trans (Binary64.level_eq_of_compare? hlast)
  constructor
  · intro hexact
    exact hlt.ne (hexact.int_eq hi hj hlevel.symm)
  · intro hexact
    exact hlt.ne' (hexact.int_eq hj hi hlevel)

/-- **When the first of three numbers that do not descend is greater than the last.** -/
theorem compare?_eq_gt_iff {a b c : Number} (ha : a ≠ .real .nan) (hb : b ≠ .real .nan)
    (hc : c ≠ .real .nan) (hab : a.compare? b ≠ some .gt) (hbc : b.compare? c ≠ some .gt) :
    a.compare? c = some .gt ↔ a.Collapsed b c := by
  have hfirst := level_le ha hb hab
  have hlast := level_le hb hc hbc
  constructor
  · intro hgt
    rcases compare?_cases ha hc with ⟨i, j, hi, hj, hcompare⟩ | ⟨-, hcompare⟩
    · rw [hcompare, Option.some.injEq, Int.compare_eq_gt] at hgt
      -- both ends are whole, so their places and that of the number between them are one
      have hends := level_mono hj hi hgt.le
      have hreal : b.int? = none := by
        cases hk : b.int? with
        | none => rfl
        | some k =>
            rw [compare?_int hk, hi] at hab
            rw [compare?_int hj, hk] at hbc
            simp only [Ne, Option.some.injEq, Int.compare_eq_gt] at hab hbc
            omega
      refine ⟨i, j, hi, hj, hgt, hreal, ?_, ?_⟩
      · rw [compare?_level ha hb (Or.inr hreal), Option.some.injEq, Int.compare_eq_eq]
        omega
      · rw [compare?_level hb hc (Or.inl hreal), Option.some.injEq, Int.compare_eq_eq]
        omega
    · rw [hcompare, Option.some.injEq, Int.compare_eq_gt] at hgt
      omega
  · rintro ⟨i, j, hi, hj, hlt, -⟩
    rw [compare?_int hj, hi]
    exact congrArg some (Int.compare_eq_gt.mpr hlt)

/-- **Comparing numbers is a total preorder** but for whole numbers that a floating-point number is
level with. Numbers are comparable from both sides alike, and of three numbers that do not descend
the first is not greater than the last unless the three collapse, for which both ends have to be
beyond what floating-point numbers represent. -/
theorem preorder_unless_collapsed {a b c : Number} (ha : a ≠ .real .nan) (hb : b ≠ .real .nan)
    (hc : c ≠ .real .nan) :
    (∃ ordering, a.compare? b = some ordering ∧ b.compare? a = some ordering.swap) ∧
    (a.compare? b ≠ some .gt → b.compare? c ≠ some .gt →
      (a.compare? c ≠ some .gt ↔ ¬a.Collapsed b c)) ∧
    (a.Collapsed b c → ¬a.Exact ∧ ¬c.Exact) := by
  refine ⟨?_, ?_, Collapsed.not_exact⟩
  · obtain ⟨ordering, hordering⟩ : ∃ ordering, a.compare? b = some ordering := by
      rcases compare?_cases ha hb with ⟨_, _, -, -, hcompare⟩ | ⟨-, hcompare⟩
      · exact ⟨_, hcompare⟩
      · exact ⟨_, hcompare⟩
    refine ⟨ordering, hordering, ?_⟩
    rw [compare?_swap, hordering]
    rfl
  · intro hab hbc
    rw [Ne, compare?_eq_gt_iff ha hb hc hab hbc]

/-- The floating-point number `2 ^ 53`. -/
def powerOfTwo : Number :=
  .real (.signed false 0x4340000000000000)

/-- Between a negative number and the greatest unsigned one nothing collapses. The whole number
after `2 ^ 53` and that power itself collapse with its floating-point form. -/
theorem preorder_triples :
    (signed (-1)).compare? (unsigned 0xffffffffffffffff) ≠ some .gt ∧
      (signed 9007199254740993).Collapsed powerOfTwo (signed 9007199254740992) := by
  constructor
  · obtain ⟨-, hpreorder, -⟩ := @preorder_unless_collapsed (signed (-1)) powerOfTwo
      (unsigned 0xffffffffffffffff) (by decide) (by decide) (by decide)
    refine (hpreorder (by decide) (by decide)).mpr ?_
    rintro ⟨i, j, hi, hj, hlt, -⟩
    cases hi
    cases hj
    exact absurd hlt (by decide)
  · obtain ⟨-, hpreorder, -⟩ := @preorder_unless_collapsed (signed 9007199254740993) powerOfTwo
      (signed 9007199254740992) (by decide) (by decide) (by decide)
    by_contra hnone
    exact (hpreorder (by decide) (by decide)).mpr hnone (by decide)

/-- The whole number after `2 ^ 53` is level with the floating-point number `2 ^ 53`, which is level
with the whole number `2 ^ 53`, but the first is greater than the last. -/
theorem not_transitive :
    ¬∀ a b c : Number, a ≠ .real .nan → b ≠ .real .nan → c ≠ .real .nan →
      a.compare? b ≠ some .gt → b.compare? c ≠ some .gt → a.compare? c ≠ some .gt := by
  intro htransitive
  exact htransitive (signed 9007199254740993) powerOfTwo (signed 9007199254740992) (by decide)
    (by decide) (by decide) (by decide) (by decide) (by decide)

/-- A sort does not bring such numbers in order. -/
example : stableSort (fun a b => a.compare? b == some .lt)
    [signed 9007199254740993, powerOfTwo, signed 9007199254740992] =
      [signed 9007199254740993, powerOfTwo, signed 9007199254740992] := by decide

end Number

end RecordQuery
