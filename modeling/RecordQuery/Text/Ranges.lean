import RecordQuery.Text.Hex

/-! # Ranges of code points

A character class is a list of closed ranges of code points in ascending order.

Long classes are written in text: hexadecimal code points and ranges between blanks. A hyphen
stands between the ends of a range; a tilde says that only every second code point is meant.
-/

namespace RecordQuery.Text

abbrev Ranges := List (Nat × Nat)

namespace Ranges

def holds (ranges : Ranges) (code : Nat) : Bool :=
  ranges.any fun range => range.1 ≤ code && code ≤ range.2

def has (ranges : Ranges) (c : Char) : Bool :=
  ranges.holds c.toNat

/-- Every second code point of a range, each as a range of its own. -/
def everySecond (first last : Nat) : Ranges :=
  (List.range ((last - first) / 2 + 1)).map fun i => (first + 2 * i, first + 2 * i)

/-- The ranges in a written list, where `opened` makes them from the last code point of the entry
and `code` is read so far. -/
def ofChars (opened : Nat → Ranges) (code : Nat) : List Char → Ranges
  | [] => opened code
  | ' ' :: cs => opened code ++ ofChars (fun only => [(only, only)]) 0 cs
  | '-' :: cs => ofChars (fun last => [(code, last)]) 0 cs
  | '~' :: cs => ofChars (everySecond code) 0 cs
  | c :: cs => ofChars opened (16 * code + (hexValue? c).getD 0) cs

def ofText (text : String) : Ranges :=
  ofChars (fun only => [(only, only)]) 0 text.toList

end Ranges

end RecordQuery.Text
