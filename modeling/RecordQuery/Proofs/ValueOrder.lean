import Mathlib
import RecordQuery.Clause

/-!
# The order of values of one kind

Values that are absent or of one kind, with whole numbers only, are ordered totally: each has a
rank, and the sort order compares ranks. Comparing with an operand of the kind is comparing with the
value that the operand stands for.
-/

namespace RecordQuery

namespace Value

/-- Absent, or a value of the kind. Numbers are whole. -/
inductive Fits : Kind → Value → Prop where
  | text (s : String) : Fits .text (.text s)
  | signed (n : Int64) : Fits .number (.number (.signed n))
  | unsigned (n : UInt64) : Fits .number (.number (.unsigned n))
  | timestamp (t : Timestamp) : Fits .timestamp (.timestamp t)
  | uuid (u : Uuid) : Fits .uuid (.uuid u)
  | enumeration (variants : List String) (index : UInt32) :
      Fits (.enumeration variants) (.enumeration index)
  | bool (b : Bool) : Fits .bool (.bool b)
  | absent (kind : Kind) : Fits kind .absent

theorem Fits.ne_list {kind : Kind} {value : Value} (h : value.Fits kind) (items : List Value) :
    value ≠ .list items := by
  cases h <;> simp

/-- What the order of a value depends on: whether it is absent, then its text, then its number. -/
def rank : Value → Bool × String × Int
  | .text s => (false, s, 0)
  | .number (.signed n) => (false, "", n.toInt)
  | .number (.unsigned n) => (false, "", n.toNat)
  | .timestamp t => (false, "", t.millis.toInt)
  | .uuid u => (false, "", u.value.toNat)
  | .enumeration index => (false, "", index.toNat)
  | .bool b => (false, "", b.toNat)
  | _ => (true, "", 0)

/-- The sort order, continued to all values by their ranks. -/
def order : Value → Value → Ordering :=
  compareLex (compareOn fun value => value.rank.1)
    (compareLex (compareOn fun value => value.rank.2.1) (compareOn fun value => value.rank.2.2))

instance : Std.TransCmp order :=
  inferInstanceAs (Std.TransCmp (compareLex (compareOn fun value : Value => value.rank.1)
    (compareLex (compareOn fun value => value.rank.2.1) (compareOn fun value => value.rank.2.2))))

theorem compare_natCast (a b : Nat) : compare (a : Int) (b : Int) = compare a b := by
  simp only [compare, compareOfLessAndEq, Int.ofNat_lt, Int.ofNat_inj]

/-- **Values of one kind are comparable.** Their order is the order of their ranks. -/
theorem compare?_eq_order {kind : Kind} {a b : Value} (ha : a.Fits kind) (hb : b.Fits kind) :
    a.compare? b = some (order a b) := by
  have hpresent : compare false true = .lt := rfl
  have habsent : compare true false = .gt := rfl
  cases ha <;> cases hb <;>
    simp [compare?, order, rank, compareLex, compareOn, Number.compare?, Timestamp.compare,
      Uuid.compare, compare_natCast, hpresent, habsent]

theorem order_congr_right {a b c : Value} (h : b.rank = c.rank) : order a b = order a c := by
  simp only [order, compareLex, compareOn, h]

end Value

namespace Operand

/-- The value that an operand of a boundary stands for. -/
def toValue : Operand → Value
  | .text s => .text s
  | .number n => .number n
  | .timestamp t => .timestamp t
  | .uuid u => .uuid u
  | .enumeration index => .enumeration index
  | .bool b => .bool b
  | .null => .absent
  | .set _ => .list []
  | .pattern _ => .list []

/-- Null, or a scalar of the kind. Numbers are whole. -/
def Fits (kind : Kind) (operand : Operand) : Prop :=
  operand.toValue.Fits kind

end Operand

namespace Value

theorem sortOrder?_eq_order {kind : Kind} {value : Value} {operand : Operand}
    (hvalue : value.Fits kind) (hoperand : operand.Fits kind) :
    value.sortOrder? operand = some (order value operand.toValue) := by
  rw [← compare?_eq_order hvalue hoperand]
  cases hvalue <;> cases operand <;> rfl

/-- The operand stands for the value: it is null if the value is absent, and equal to it
otherwise. -/
def ReadAs (value : Value) (operand : Operand) : Prop :=
  (value.isAbsent = true → operand = .null) ∧
    (value.isAbsent = false → value.compareTo? operand = some .eq)

theorem readAs_of_rank {kind : Kind} {value : Value} {operand : Operand} (hvalue : value.Fits kind)
    (hoperand : operand.Fits kind) (hrank : operand.toValue.rank = value.rank) :
    value.ReadAs operand := by
  have hequal : value.compare? operand.toValue = some .eq := by
    rw [compare?_eq_order hvalue hoperand, order_congr_right hrank]
    exact congrArg some (@Std.ReflCmp.compare_self Value order _ value)
  cases operand with
  | null =>
      refine ⟨fun _ => rfl, ?_⟩
      intro hpresent
      cases hvalue <;> cases hequal
      cases hpresent
  | set operands => cases hoperand
  | pattern p => cases hoperand
  | text _ | number _ | timestamp _ | uuid _ | enumeration _ | bool _ =>
      constructor
      · intro habsent
        cases hvalue <;> cases habsent
        cases hequal
      · intro _
        cases hvalue <;> first | exact hequal | cases hequal

theorem equals_eq_order {kind : Kind} {value : Value} {operand : Operand}
    (hvalue : value.Fits kind) (hoperand : operand.Fits kind) :
    Clause.equals false operand value = (order value operand.toValue == .eq) := by
  have horder : (order value operand.toValue == .eq) =
      (value.compare? operand.toValue == some .eq) := by
    rw [compare?_eq_order hvalue hoperand]
    rfl
  rw [horder]
  cases hvalue <;> cases operand <;> rfl

end Value

end RecordQuery
