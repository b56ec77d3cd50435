/-! # Splitting at a separator

A text with `n` separators has `n + 1` parts, some of them possibly empty.
-/

namespace RecordQuery.Text

def splitChars (separator : Char) : List Char → List (List Char)
  | [] => [[]]
  | c :: cs =>
    if c = separator then [] :: splitChars separator cs
    else match splitChars separator cs with
      | [] => [[c]]
      | part :: parts => (c :: part) :: parts

def split (separator : Char) (s : String) : List String :=
  (splitChars separator s.toList).map String.ofList

/-- The text before the first separator and the text after it. -/
def splitOnce (separator : Char) (s : String) : Option (String × String) :=
  match s.toList.span (· != separator) with
  | (before, _ :: after) => some (String.ofList before, String.ofList after)
  | (_, []) => none

def join (separator : String) : List String → String
  | [] => ""
  | [part] => part
  | part :: parts => part ++ separator ++ join separator parts

end RecordQuery.Text
