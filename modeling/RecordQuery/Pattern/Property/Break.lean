import RecordQuery.Pattern.Property.Binary
import RecordQuery.Pattern.Property.Script

/-! # Breaks in text

The classes of characters that decide where one user-perceived character, word or sentence ends
and the next begins. They follow from the properties of the characters and from short lists.
-/

namespace RecordQuery.Pattern

open Category Property

def Script.named (name : String) : CharSet :=
  (NamedClass.find? Script.table name.toList).getD .none

def only (code : Nat) : CharSet :=
  .ofRanges [(code, code)]

namespace GraphemeBreak

def extend : CharSet := graphemeExtend.union emojiModifier

def prepend : CharSet := prependedConcatenationMark.union
  (.ofLines ["d4e 111c2-111c3 113d1 1193f 11941 11a3a 11a84-11a89 11d46 11f02"])

def control : CharSet :=
  (CharSet.unions [lineSeparator, paragraphSeparator, Category.control, format,
    unassigned.inter defaultIgnorableCodePoint]).diff
    (.unions [prepend, extend, .ofLines ["a d 200c-200d"]])

def spacingMark : CharSet :=
  (Category.spacingMark.diff (extend.union (.ofLines [
    "102b-102c 1038 1062-1064 1067-106d 1083 1087-108c 108f 109a-109c 1a61 1a63-1a64 aa7b aa7d",
    "11720-11721"]))).union (.ofLines ["e33 eb3"])

def syllable : CharSet := .ofLines ["ac00-d7a3"]

/-- The Hangul syllables without a final consonant, one in 28. -/
def openSyllable : CharSet :=
  .ofRanges ((List.range 399).map fun i => (0xac00 + 28 * i, 0xac00 + 28 * i))

def table : List NamedSet := [
  ⟨["CN", "Control"], control⟩,
  ⟨["CR"], only 0xd⟩,
  ⟨["EX", "Extend"], extend⟩,
  ⟨["L"], .ofLines ["1100-115f a960-a97c"]⟩,
  ⟨["LF"], only 0xa⟩,
  ⟨["LV"], openSyllable⟩,
  ⟨["LVT"], syllable.diff openSyllable⟩,
  ⟨["PP", "Prepend"], prepend⟩,
  ⟨["RI", "Regional_Indicator"], regionalIndicator⟩,
  ⟨["SM", "SpacingMark"], spacingMark⟩,
  ⟨["T"], .ofLines ["11a8-11ff d7cb-d7fb"]⟩,
  ⟨["V"], .ofLines ["1160-11a7 d7b0-d7c6 16d63 16d67-16d6a"]⟩,
  ⟨["ZWJ"], only 0x200d⟩]

end GraphemeBreak

namespace WordBreak

def extend : CharSet := CharSet.unions [graphemeExtend, Category.spacingMark, emojiModifier]

/-- The sign that is no letter of the words it stands before. -/
def abbreviation : CharSet := only 0x70f

def numeric : CharSet :=
  .unions [decimalNumber, only 0x66b, prependedConcatenationMark.diff abbreviation]

def katakana : CharSet :=
  (Script.named "Kana").union (.ofLines ["3031-3035 309b-309c 30a0 30fc ff70"])

def hebrewLetter : CharSet := (Script.named "Hebr").inter otherLetter

/-- The blocks of the scripts that are written without blanks between words. -/
def unspaced : CharSet :=
  .ofLines ["e00-eff 1000-109f 1780-17ff 1950-19df 1a20-1aaf a9e0-a9ff aa60-aadf 11700-1174f"]

/-- Signs that count as letters. -/
def letterLike : CharSet := .ofLines [
  "2c2-2c5 2d2-2d7 2de-2df 2e5-2eb 2ed 2ef-2ff 55a-55c 55e 58a 5f3 70f a708-a716 a720-a721",
  "a789-a78a ab5b"]

def alphabeticLetter : CharSet :=
  (alphabetic.union letterLike).diff
    (.unions [ideographic, katakana, hebrewLetter, Script.named "Hira", unspaced, extend])

def table : List NamedSet := [
  ⟨["CR"], only 0xd⟩,
  ⟨["DQ", "Double_Quote"], only 0x22⟩,
  ⟨["EX", "ExtendNumLet"], connectorPunctuation.union (only 0x202f)⟩,
  ⟨["Extend"], extend⟩,
  ⟨["FO", "Format"], format.diff
    (.unions [prependedConcatenationMark, extend, .ofLines ["200b-200d"]])⟩,
  ⟨["HL", "Hebrew_Letter"], hebrewLetter⟩,
  ⟨["KA", "Katakana"], katakana⟩,
  ⟨["LE", "ALetter"], alphabeticLetter⟩,
  ⟨["LF"], only 0xa⟩,
  ⟨["MB", "MidNumLet"], .ofLines ["2e 2018-2019 2024 fe52 ff07 ff0e"]⟩,
  ⟨["ML", "MidLetter"], .ofLines ["3a b7 387 55f 5f4 2027 fe13 fe55 ff1a"]⟩,
  ⟨["MN", "MidNum"], .ofLines ["2c 3b 37e 589 60c-60d 66c 7f8 2044 fe10 fe14 fe50 fe54 ff0c ff1b"]⟩,
  ⟨["NL", "Newline"], .ofLines ["b-c 85 2028-2029"]⟩,
  ⟨["NU", "Numeric"], numeric⟩,
  ⟨["RI", "Regional_Indicator"], regionalIndicator⟩,
  ⟨["SQ", "Single_Quote"], only 0x27⟩,
  ⟨["WSegSpace"], spaceSeparator.diff (.ofLines ["a0 2007 202f"])⟩,
  ⟨["ZWJ"], only 0x200d⟩]

end WordBreak

namespace SentenceBreak

def extend : CharSet :=
  .unions [graphemeExtend, Category.spacingMark, .ofLines ["200c-200d"]]

def separator : CharSet := .ofLines ["85 2028-2029"]

/-- Full stops, which end a sentence only at times. -/
def ambiguousTerminator : CharSet := .ofLines ["2e 2024 fe52 ff0e"]

def lower : CharSet := lowercase.diff (graphemeExtend.union (.ofLines ["10d0-10fa 10fd-10ff"]))

def upper : CharSet := (uppercase.union titlecaseLetter).diff (.ofLines ["1c90-1cba 1cbd-1cbf"])

def table : List NamedSet := [
  ⟨["AT", "ATerm"], ambiguousTerminator⟩,
  ⟨["CL", "Close"], .unions [openPunctuation, closePunctuation, initialPunctuation,
    finalPunctuation, .ofLines ["22 27 275b-2760 2e00-2e01 2e06-2e08 2e0b 1f676-1f678"]]⟩,
  ⟨["CR"], only 0xd⟩,
  ⟨["EX", "Extend"], extend⟩,
  ⟨["FO", "Format"], format.diff (extend.union WordBreak.numeric)⟩,
  ⟨["LE", "OLetter"], (alphabetic.union (only 0x5f3)).diff (.unions [lower, upper, extend])⟩,
  ⟨["LF"], only 0xa⟩,
  ⟨["LO", "Lower"], lower⟩,
  ⟨["NU", "Numeric"], WordBreak.numeric.union (only 0x66c)⟩,
  ⟨["SC", "SContinue"], .ofLines [
    "2c-2d 3a-3b 37e 55d 60c-60d 7f8 1802 1808 2013-2014 3001 fe10-fe11 fe13-fe14 fe31-fe32",
    "fe50-fe51 fe54-fe55 fe58 fe63 ff0c-ff0d ff1a-ff1b ff64"]⟩,
  ⟨["SE", "Sep"], separator⟩,
  ⟨["SP", "Sp"], whiteSpace.diff (separator.union (.ofLines ["a d"]))⟩,
  ⟨["ST", "STerm"], sentenceTerminal.diff ambiguousTerminator⟩,
  ⟨["UP", "Upper"], upper⟩]

end SentenceBreak

end RecordQuery.Pattern
