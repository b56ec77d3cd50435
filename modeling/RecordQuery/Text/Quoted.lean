import RecordQuery.Text.Class.Printing

/-! # Quoted texts

A quoted text stands between double quotes. Quotes, backslashes and characters that cannot be seen
on their own are escaped, so the quoted form of a text is unambiguous.
-/

namespace RecordQuery.Text

/-- The escape of a character by its code point. -/
def codeEscape (c : Char) : List Char :=
  ['\\', 'u', '\x7b'] ++ Nat.toDigits 16 c.toNat ++ ['\x7d']

/-- The halfwidth marks of voiced Katakana, which attach to a letter but are seen on their own. -/
def halfwidthMarks : Ranges := [(0xff9e, 0xff9f)]

/-- The fillers of Hangul syllables: letters that are blank. -/
def hangulFillers : Ranges := [(0x115f, 0x1160), (0x3164, 0x3164), (0xffa0, 0xffa0)]

/-- The character cannot be seen on its own. -/
def isHidden (c : Char) : Bool :=
  unprintable.has c || hangulFillers.has c || graphemeExtend.has c && !halfwidthMarks.has c

def quoteChar (c : Char) : List Char :=
  if c = '\x00' then ['\\', '0']
  else if c = '\t' then ['\\', 't']
  else if c = '\r' then ['\\', 'r']
  else if c = '\n' then ['\\', 'n']
  else if c = '\\' then ['\\', '\\']
  else if c = '\x22' then ['\\', '\x22']
  else if c.toNat < 0x7f && 0x1f < c.toNat then [c]
  else if isHidden c then codeEscape c
  else [c]

def quoteChars (cs : List Char) : List Char :=
  '\x22' :: cs.flatMap quoteChar ++ ['\x22']

def quote (s : String) : String :=
  String.ofList (quoteChars s.toList)

example : (quote "a\"\\\n").toList = ['\x22', 'a', '\\', '\x22', '\\', '\\', '\\', 'n', '\x22'] := by
  decide

end RecordQuery.Text
