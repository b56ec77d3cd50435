import RecordQuery.Pattern.Expr

/-! # Flags of patterns

Flags change what the signs of a pattern stand for, from the place where they are switched on to the
end of the group.
-/

namespace RecordQuery.Pattern

structure Flags where
  ignoreCase : Bool := false
  multiLine : Bool := false
  dotAll : Bool := false
  /-- Blanks and comments carry no meaning. -/
  spaced : Bool := false
  /-- A carriage return ends a line too, alone or before a line feed. -/
  anyLineEnd : Bool := false
  /-- Repetitions are lazy unless they are marked. -/
  swapLazy : Bool := false
  /-- Classes, words and case are those of ASCII. -/
  ascii : Bool := false

namespace Flags

/-- The flags with the one of a letter switched on or off. -/
def switch? (flags : Flags) (on : Bool) : Char → Option Flags
  | 'i' => some { flags with ignoreCase := on }
  | 'm' => some { flags with multiLine := on }
  | 's' => some { flags with dotAll := on }
  | 'x' => some { flags with spaced := on }
  | 'R' => some { flags with anyLineEnd := on }
  | 'U' => some { flags with swapLazy := on }
  | 'u' => some { flags with ascii := !on }
  | _ => none

/-- Case variants belong to a set when case is ignored. -/
def fold (flags : Flags) (s : CharSet) : CharSet :=
  if flags.ignoreCase then if flags.ascii then s.anyAsciiCase else s.anyCase else s

/-- A set after its sign for negation has been seen or not. In ASCII it has to stay a set of ASCII
characters. -/
def close? (flags : Flags) (negated : Bool) (s : CharSet) : Option CharSet :=
  if negated && flags.ascii then none else some ((flags.fold s).complIf negated)

/-- The characters that a letter after a backslash stands for, and their complement if `negated`. -/
def class? (flags : Flags) (negated : Bool) (full ascii : CharSet) : Option CharSet :=
  if flags.ascii then if negated then none else some ascii
  else some (full.complIf negated)

def alphabet (flags : Flags) : Alphabet :=
  if flags.ascii then .ascii else .full

def char (flags : Flags) (c : Char) : Expr :=
  .ofSet (flags.fold (.single c))

def dot? (flags : Flags) : Option CharSet :=
  if flags.ascii then none
  else if flags.dotAll then some .all
  else if flags.anyLineEnd then some (CharSet.ofList ['\n', '\r']).compl
  else some (CharSet.single '\n').compl

def start (flags : Flags) : Anchor :=
  if flags.multiLine then if flags.anyLineEnd then .anyLineStart else .lineStart else .textStart

def stop (flags : Flags) : Anchor :=
  if flags.multiLine then if flags.anyLineEnd then .anyLineEnd else .lineEnd else .textEnd

end Flags

end RecordQuery.Pattern
