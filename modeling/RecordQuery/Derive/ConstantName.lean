import RecordQuery.Text.Class.Casing
import RecordQuery.Text.Class.Words

/-! # Names of constants

The constant of a field is named like the field, in upper case and with underscores between the
words.
-/

namespace RecordQuery.Derive

def isSeparator (c : Char) : Bool :=
  c == '_' || c == '-' || c == '.'

def isAlphanumeric (c : Char) : Bool :=
  Text.alphabetic.has c || Text.numeric.has c

/-- An upper-case letter after a letter or digit that is none begins a word. `inWord` tells whether
such a character stands before. Only ASCII letters change their case. -/
def constantChars (inWord : Bool) : List Char → List Char
  | [] => []
  | c :: cs =>
    if Text.uppercase.has c then
      if inWord then '_' :: c :: constantChars false cs else c :: constantChars false cs
    else if isSeparator c then '_' :: constantChars false cs
    else c.toUpper :: constantChars (isAlphanumeric c) cs

def constantName (name : String) : String :=
  String.ofList (constantChars false name.toList)

example : constantChars false ['a', 'B', '.', 'c', '1', 'D', 'E'] =
    ['A', '_', 'B', '_', 'C', '1', '_', 'D', 'E'] := by decide +kernel

end RecordQuery.Derive
