import Mathlib
import RecordQuery.Json.Reader
import RecordQuery.Json.Writer

/-!
# JSON texts

Reading a text undoes writing it. Control characters without a short escape are written as code
units, which are never halves of a pair.
-/

namespace RecordQuery

namespace Json

/-- The piece that a written character is read as. -/
def pieceOf (c : Char) : Piece :=
  if c.toNat < 0x20 ∧ c ≠ '\x08' ∧ c ≠ '\t' ∧ c ≠ '\n' ∧ c ≠ '\x0c' ∧ c ≠ '\r' then .unit c.toNat
  else .char c

theorem hexFrom?_byte {n : Nat} (h : n < 0x20) :
    Text.hexFrom? 0 ['0', '0', Text.hexDigit (n / 16), Text.hexDigit (n % 16)] = some n := by
  have hhigh := Text.hexValue?_hexDigit (n / 16) (by omega)
  have hlow := Text.hexValue?_hexDigit (n % 16) (by omega)
  have hzero : Text.hexValue? '0' = some 0 := rfl
  simp only [Text.hexFrom?, hzero, hhigh, hlow, Option.bind_some]
  congr 1
  omega

/-- The characters that are written with a mark after the backslash. -/
def Marked (c : Char) : Prop :=
  c = '\x22' ∨ c = '\\' ∨ c = '\x08' ∨ c = '\t' ∨ c = '\n' ∨ c = '\x0c' ∨ c = '\r'

theorem readPieces_marked {c : Char} (h : Marked c) (rest : List Char) :
    readPieces (escapeChar c ++ rest) =
      (readPieces rest).map fun read => (pieceOf c :: read.1, read.2) := by
  rcases h with rfl | rfl | rfl | rfl | rfl | rfl | rfl <;>
    cases hrest : readPieces rest <;>
    simp [escapeChar, readPieces, pieceOf, hrest]

theorem readPieces_escapeChar (c : Char) (rest : List Char) :
    readPieces (escapeChar c ++ rest) =
      (readPieces rest).map fun read => (pieceOf c :: read.1, read.2) := by
  by_cases hmarked : Marked c
  · exact readPieces_marked hmarked rest
  simp only [Marked, not_or] at hmarked
  obtain ⟨hquote, hslash, hb, ht, hn, hf, hr⟩ := hmarked
  by_cases hcontrol : c.toNat < 0x20
  · have hescape : escapeChar c =
        ['\\', 'u', '0', '0', Text.hexDigit (c.toNat / 16), Text.hexDigit (c.toNat % 16)] := by
      simp [escapeChar, hquote, hslash, hb, ht, hn, hf, hr, hcontrol]
    have hpiece : pieceOf c = .unit c.toNat := if_pos ⟨hcontrol, hb, ht, hn, hf, hr⟩
    rw [hescape, hpiece]
    simp only [List.cons_append, List.nil_append]
    rw [readPieces, hexFrom?_byte hcontrol]
    cases readPieces rest <;> rfl
  · have hescape : escapeChar c = [c] := by
      simp [escapeChar, hquote, hslash, hb, ht, hn, hf, hr, hcontrol]
    have hpiece : pieceOf c = .char c := if_neg fun h => hcontrol h.1
    rw [hescape, hpiece]
    cases hrest : readPieces rest <;> simp [readPieces, hslash, hcontrol, hrest]

theorem readPieces_escaped (cs rest : List Char) :
    readPieces (cs.flatMap escapeChar ++ '\x22' :: rest) = some (cs.map pieceOf, rest) := by
  induction cs with
  | nil => rfl
  | cons c cs ih =>
      rw [List.flatMap_cons, List.append_assoc, readPieces_escapeChar, ih]
      rfl

theorem pieceChars?_pieces (cs : List Char) : pieceChars? (cs.map pieceOf) = some cs := by
  induction cs with
  | nil => rfl
  | cons c cs ih =>
      rw [List.map_cons, pieceOf]
      split
      next hcontrol =>
        have hunit : ¬(0xd800 ≤ c.toNat ∧ c.toNat < 0xe000) := by omega
        have hhigh : ¬(0xd800 ≤ c.toNat ∧ c.toNat < 0xdc00) := by omega
        have hlow : ¬(0xdc00 ≤ c.toNat ∧ c.toNat < 0xe000) := by omega
        cases hnext : cs.map pieceOf with
        | nil =>
            rw [hnext] at ih
            rw [pieceChars?, if_neg hunit, ih, Option.map_some, Char.ofNat_toNat]
            simp
        | cons piece pieces =>
            rw [hnext] at ih
            cases piece with
            | char d =>
                rw [pieceChars?, if_neg hunit, ih, Option.map_some, Char.ofNat_toNat]
                simp
            | unit n =>
                rw [pieceChars?, if_neg hhigh, if_neg hlow, ih, Option.map_some, Char.ofNat_toNat]
      next => rw [pieceChars?, ih, Option.map_some]

theorem writeText_append (s : String) (rest : List Char) :
    writeText s ++ rest = '\x22' :: (s.toList.flatMap escapeChar ++ '\x22' :: rest) := by
  simp [writeText]

/-- **Reading a text undoes writing it.** -/
theorem readText_escaped (s : String) (rest : List Char) :
    readText (s.toList.flatMap escapeChar ++ '\x22' :: rest) = some (some s, rest) := by
  rw [readText, readPieces_escaped, Option.map_some]
  dsimp only
  rw [pieceChars?_pieces, Option.map_some, String.ofList_toList]

end Json

end RecordQuery
