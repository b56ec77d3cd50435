import RecordQuery.Pattern.Property.Binary

/-! # Conditions on places

An anchor takes up no character. It holds at some of the places between two characters.
-/

namespace RecordQuery.Pattern

/-- The characters that words are made of. -/
inductive Alphabet where
  | full
  | ascii
  deriving DecidableEq

def Alphabet.has : Alphabet → Char → Bool
  | full, c => Property.word.has c
  | ascii, c => c.isAlphanum || c == '_'

/-- Where a place lies in a word. The half of a condition looks at one side only. -/
inductive WordEdge where
  | boundary
  | noBoundary
  | start
  | stop
  | startHalf
  | stopHalf
  deriving DecidableEq

/-- The condition on a place with or without a word on its two sides. -/
def WordEdge.holds (before after : Bool) : WordEdge → Bool
  | boundary => before != after
  | noBoundary => before == after
  | start => !before && after
  | stop => before && !after
  | startHalf => !before
  | stopHalf => !after

/-- A condition on a place between two characters. -/
inductive Anchor where
  | textStart
  | textEnd
  | lineStart
  | lineEnd
  /-- A line begins after a carriage return too, unless a line feed comes next. -/
  | anyLineStart
  /-- A line ends before a carriage return too, and the line feed after one ends no other line. -/
  | anyLineEnd
  | word (edge : WordEdge) (alphabet : Alphabet)
  deriving DecidableEq

/-- A place in a text: the character before it and the one after it. -/
structure Place where
  before : Option Char
  after : Option Char

def Anchor.holds (place : Place) : Anchor → Bool
  | textStart => place.before.isNone
  | textEnd => place.after.isNone
  | lineStart => place.before.isNone || place.before == some '\n'
  | lineEnd => place.after.isNone || place.after == some '\n'
  | anyLineStart => place.before.isNone || place.before == some '\n' ||
    place.before == some '\r' && place.after != some '\n'
  | anyLineEnd => place.after.isNone || place.after == some '\r' ||
    place.after == some '\n' && place.before != some '\r'
  | word edge alphabet => edge.holds (place.before.any alphabet.has) (place.after.any alphabet.has)

end RecordQuery.Pattern
