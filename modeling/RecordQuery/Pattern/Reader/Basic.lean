import RecordQuery.Pattern.Flags
import RecordQuery.Text.Blank

/-! # Reading characters of patterns

A reader takes characters from the front of the pattern, and fails where the pattern is not well
formed.
-/

namespace RecordQuery.Pattern

/-- What is left of a pattern, the number of groups that were opened, and their names. -/
structure Reading where
  rest : List Char
  groups : Nat := 0
  names : List (List Char) := []

abbrev Reader := StateT Reading Option

namespace Reader

/-- What is left after blanks and comments. -/
def afterBlanks : Nat → List Char → List Char
  | 0, cs => cs
  | fuel + 1, cs => match cs.dropWhile Text.isBlankChar with
    | '#' :: rest => afterBlanks fuel (rest.dropWhile (· ≠ '\n'))
    | rest => rest

def rest : Reader (List Char) := do
  return (← get).rest

def goOn (rest : List Char) : Reader Unit :=
  modify fun reading => { reading with rest }

def peek : Reader (Option Char) := do
  return (← rest).head?

def drop : Reader Unit := do
  goOn ((← rest).drop 1)

/-- Drops blanks and comments when they carry no meaning. -/
def skipBlanks (flags : Flags) : Reader Unit := do
  if flags.spaced then
    let cs ← rest
    goOn (afterBlanks cs.length cs)

/-- Drops the next character and the blanks after it. -/
def dropWithBlanks (flags : Flags) : Reader Unit := do
  drop
  skipBlanks flags

/-- The next character, which has to be there. -/
def current : Reader Char := do
  (← rest).head?

def accept (text : List Char) : Reader Bool := do
  let cs ← rest
  if text.isPrefixOf cs then
    goOn (cs.drop text.length)
    return true
  else
    return false

/-- The characters that pass, with the blanks after each dropped; `fuel` bounds their number. -/
def takeWhile (flags : Flags) (pass : Char → Bool) : Nat → Reader (List Char)
  | 0 => return []
  | fuel + 1 => do
    match ← peek with
    | some c =>
      if pass c then
        dropWithBlanks flags
        return c :: (← takeWhile flags pass fuel)
      else return []
    | none => return []

/-- All the next characters that pass, with the blanks after each dropped. -/
def span (flags : Flags) (pass : Char → Bool) : Reader (List Char) := do
  takeWhile flags pass (← rest).length

end Reader

end RecordQuery.Pattern
