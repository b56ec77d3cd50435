import RecordQuery.Text.Ranges

/-! # White space

Blank characters are those with the Unicode property White_Space. Trimming takes them off both
ends of a text.
-/

namespace RecordQuery.Text

/-- The characters with the property White_Space. -/
def whiteSpace : Ranges := [(0x9, 0xd), (0x20, 0x20), (0x85, 0x85), (0xa0, 0xa0), (0x1680, 0x1680),
  (0x2000, 0x200a), (0x2028, 0x2029), (0x202f, 0x202f), (0x205f, 0x205f), (0x3000, 0x3000)]

def isBlankChar (c : Char) : Bool :=
  whiteSpace.has c

def trimLeft (cs : List Char) : List Char :=
  cs.dropWhile isBlankChar

def trimChars (cs : List Char) : List Char :=
  (trimLeft (trimLeft cs).reverse).reverse

def trim (s : String) : String :=
  String.ofList (trimChars s.toList)

def isBlank (s : String) : Bool :=
  s.toList.all isBlankChar

example : [' ', '\t', '\n', '\r'].all isBlankChar = true := rfl

end RecordQuery.Text
