import RecordQuery.Pattern.Property.Category
import RecordQuery.Pattern.Property.Listed

/-! # Properties that characters have or lack

Beside the listed properties there are those that follow from the categories and from a short list
of exceptions.
-/

namespace RecordQuery.Pattern.Property

open Category

def lowercase : CharSet := .unions [lowercaseLetter, otherLowercase]

def uppercase : CharSet := .unions [uppercaseLetter, otherUppercase]

def cased : CharSet := .unions [lowercase, uppercase, titlecaseLetter]

def alphabetic : CharSet := .unions [lowercase, uppercase, letter, letterNumber, otherAlphabetic]

def math : CharSet := .unions [mathSymbol, otherMath]

/-- What can stand inside a word without ending it. -/
def caseIgnorable : CharSet := .unions [nonspacingMark, enclosingMark, format, modifierLetter,
  modifierSymbol, .ofLines ["27 2e 3a b7 387 55f 5f4 2018-2019 2024 2027 fe13 fe52 fe55 ff07 ff0e",
    "ff1a"]]

/-- The upper-case forms are those of titles, digraphs and Georgian letters apart. -/
def changesWhenTitlecased : CharSet :=
  (changesWhenUppercased.diff (.ofLines ["1c5 1c8 1cb 1f2 10d0-10fa 10fd-10ff 1f88-1f8f 1f98-1f9f",
    "1fa8-1faf 1fbc 1fcc 1ffc"])).union (.ofLines ["1c4 1c7 1ca 1f1"])

/-- Folding lowers, but Cherokee letters are folded to capitals, and some letters that are lower
case already have a fuller form. -/
def changesWhenCasefolded : CharSet :=
  (changesWhenLowercased.diff (.ofLines ["13a0-13f5"])).union (.ofLines [
    "b5 df 149 17f 345 3c2 3d0-3d1 3d5-3d6 3f0-3f1 3f5 587 13f8-13fd 1c80-1c88 1e9a-1e9b 1f80-1f87",
    "1f90-1f97 1fa0-1fa7 1fb2-1fb4 1fb7 1fc2-1fc4 1fc7 1ff2-1ff4 1ff7 ab70-abbf fb00-fb06",
    "fb13-fb17"])

def changesWhenCasemapped : CharSet :=
  .unions [changesWhenLowercased, changesWhenUppercased, changesWhenTitlecased]

def defaultIgnorableCodePoint : CharSet :=
  (CharSet.unions [otherDefaultIgnorableCodePoint, format, variationSelector]).diff
    (.unions [whiteSpace, prependedConcatenationMark, .ofLines ["fff9-fffb 13430-13440"]])

def graphemeExtend : CharSet := .unions [enclosingMark, nonspacingMark, otherGraphemeExtend]

def graphemeBase : CharSet :=
  CharSet.compl (.unions [other, lineSeparator, paragraphSeparator, graphemeExtend])

/-- What can open an identifier. -/
def idStart : CharSet :=
  (CharSet.unions [letter, letterNumber, otherIdStart]).diff (patternSyntax.union patternWhiteSpace)

/-- What can stand in an identifier. -/
def idContinue : CharSet :=
  (CharSet.unions [idStart, nonspacingMark, spacingMark, decimalNumber, connectorPunctuation,
    otherIdContinue]).diff (patternSyntax.union patternWhiteSpace)

/-- What takes an identifier out of the class when it is normalized. -/
def unclosed : CharSet := .ofLines ["37a 309b-309c fc5e-fc63 fdfa-fdfb fe70~fe7e"]

def closedIdStart : CharSet :=
  idStart.diff (unclosed.union (.ofLines ["e33 eb3 ff9e-ff9f"]))

def closedIdContinue : CharSet := idContinue.diff unclosed

/-- Letters, marks, digits and connectors. -/
def word : CharSet := .unions [alphabetic, mark, decimalNumber, connectorPunctuation, joinControl]

def table : List NamedSet := [
  ⟨["AHex", "ASCII_Hex_Digit"], asciiHexDigit⟩,
  ⟨["Alpha", "Alphabetic"], alphabetic⟩,
  ⟨["Bidi_C", "Bidi_Control"], bidiControl⟩,
  ⟨["CI", "Case_Ignorable"], caseIgnorable⟩,
  ⟨["Cased"], cased⟩,
  ⟨["CWCF", "Changes_When_Casefolded"], changesWhenCasefolded⟩,
  ⟨["CWCM", "Changes_When_Casemapped"], changesWhenCasemapped⟩,
  ⟨["CWL", "Changes_When_Lowercased"], changesWhenLowercased⟩,
  ⟨["CWT", "Changes_When_Titlecased"], changesWhenTitlecased⟩,
  ⟨["CWU", "Changes_When_Uppercased"], changesWhenUppercased⟩,
  ⟨["Dash"], dash⟩,
  ⟨["DI", "Default_Ignorable_Code_Point"], defaultIgnorableCodePoint⟩,
  ⟨["Dep", "Deprecated"], deprecated⟩,
  ⟨["Dia", "Diacritic"], diacritic⟩,
  ⟨["Emoji"], emoji⟩,
  ⟨["EComp", "Emoji_Component"], emojiComponent⟩,
  ⟨["EMod", "Emoji_Modifier"], emojiModifier⟩,
  ⟨["EBase", "Emoji_Modifier_Base"], emojiModifierBase⟩,
  ⟨["EPres", "Emoji_Presentation"], emojiPresentation⟩,
  ⟨["ExtPict", "Extended_Pictographic"], extendedPictographic⟩,
  ⟨["Ext", "Extender"], extender⟩,
  ⟨["Gr_Base", "Grapheme_Base"], graphemeBase⟩,
  ⟨["Gr_Ext", "Grapheme_Extend"], graphemeExtend⟩,
  ⟨["Gr_Link", "Grapheme_Link"], graphemeLink⟩,
  ⟨["Hex", "Hex_Digit"], hexDigit⟩,
  ⟨["Hyphen"], hyphen⟩,
  ⟨["IDSB", "IDS_Binary_Operator"], descriptionBinaryOperator⟩,
  ⟨["IDST", "IDS_Trinary_Operator"], descriptionTrinaryOperator⟩,
  ⟨["IDSU", "IDS_Unary_Operator"], descriptionUnaryOperator⟩,
  ⟨["ID_Compat_Math_Continue"], mathIdContinue⟩,
  ⟨["ID_Compat_Math_Start"], mathIdStart⟩,
  ⟨["IDC", "ID_Continue"], idContinue⟩,
  ⟨["IDS", "ID_Start"], idStart⟩,
  ⟨["Ideo", "Ideographic"], ideographic⟩,
  ⟨["Join_C", "Join_Control"], joinControl⟩,
  ⟨["LOE", "Logical_Order_Exception"], logicalOrderException⟩,
  ⟨["Lower", "Lowercase"], lowercase⟩,
  ⟨["Math"], math⟩,
  ⟨["MCM", "Modifier_Combining_Mark"], modifierCombiningMark⟩,
  ⟨["NChar", "Noncharacter_Code_Point"], noncharacterCodePoint⟩,
  ⟨["OAlpha", "Other_Alphabetic"], otherAlphabetic⟩,
  ⟨["ODI", "Other_Default_Ignorable_Code_Point"], otherDefaultIgnorableCodePoint⟩,
  ⟨["OGr_Ext", "Other_Grapheme_Extend"], otherGraphemeExtend⟩,
  ⟨["OIDC", "Other_ID_Continue"], otherIdContinue⟩,
  ⟨["OIDS", "Other_ID_Start"], otherIdStart⟩,
  ⟨["OLower", "Other_Lowercase"], otherLowercase⟩,
  ⟨["OMath", "Other_Math"], otherMath⟩,
  ⟨["OUpper", "Other_Uppercase"], otherUppercase⟩,
  ⟨["Pat_Syn", "Pattern_Syntax"], patternSyntax⟩,
  ⟨["Pat_WS", "Pattern_White_Space"], patternWhiteSpace⟩,
  ⟨["PCM", "Prepended_Concatenation_Mark"], prependedConcatenationMark⟩,
  ⟨["QMark", "Quotation_Mark"], quotationMark⟩,
  ⟨["Radical"], radical⟩,
  ⟨["RI", "Regional_Indicator"], regionalIndicator⟩,
  ⟨["STerm", "Sentence_Terminal"], sentenceTerminal⟩,
  ⟨["SD", "Soft_Dotted"], softDotted⟩,
  ⟨["Term", "Terminal_Punctuation"], terminalPunctuation⟩,
  ⟨["UIdeo", "Unified_Ideograph"], unifiedIdeograph⟩,
  ⟨["Upper", "Uppercase"], uppercase⟩,
  ⟨["VS", "Variation_Selector"], variationSelector⟩,
  ⟨["WSpace", "space", "White_Space"], whiteSpace⟩,
  ⟨["XIDC", "XID_Continue"], closedIdContinue⟩,
  ⟨["XIDS", "XID_Start"], closedIdStart⟩]

end RecordQuery.Pattern.Property
