/-! # ASCII case

Names, operator tokens and directions are told apart without regard to ASCII case. Characters
beyond ASCII keep their case here.
-/

namespace RecordQuery.Text

/-- Lower-cases the letters `A` to `Z` and keeps every other character. -/
def asciiLower (s : String) : String :=
  String.ofList (s.toList.map Char.toLower)

/-- Equality up to the case of ASCII letters. -/
def sameName (a b : String) : Bool :=
  asciiLower a == asciiLower b

@[simp] theorem toList_asciiLower (s : String) :
    (asciiLower s).toList = s.toList.map Char.toLower := by
  simp [asciiLower]

theorem sameName_iff {a b : String} : sameName a b = true ↔ asciiLower a = asciiLower b := by
  simp [sameName]

theorem sameName_refl (a : String) : sameName a a = true := by
  simp [sameName]

theorem sameName_comm (a b : String) : sameName a b = sameName b a := by
  simp [sameName, Bool.beq_comm]

end RecordQuery.Text
