import RecordQuery.Pattern.Reader.Set
import RecordQuery.Text.Class.Words

/-! # Groups, repetitions and sequences

Alternatives, sequences, repetitions, groups with flags and anchors. Look-around and back references
are not part of the notation.
-/

namespace RecordQuery.Pattern

/-- A part of a pattern that has been read, with its nesting. A directive only changes flags, and
cannot be repeated. -/
structure Part where
  expr : Expr
  depth : Nat := 0
  isDirective : Bool := false

namespace Part

/-- The nesting of what holds the parts. -/
def deeper (parts : List Part) : Nat :=
  (parts.map depth).foldl max 0 + 1

def sequence : List Part → Part
  | [] => { expr := .empty }
  | [part] => part
  | parts => { expr := .sequence (parts.map expr), depth := deeper parts }

def choice : List Part → Part
  | [part] => part
  | parts => { expr := .choice (parts.map expr), depth := deeper parts }

end Part

/-- What opens with a parenthesis: a group, with its number if it has one and the flags inside, or
only other flags. -/
inductive Opening where
  | group (index : Option Nat) (flags : Flags)
  | directive (flags : Flags)

namespace Reader

/-- Flags up to the colon or parenthesis that ends them, which is not taken. `seen` are the signs so
far, the last one first. -/
def readFlags (flags : Flags) (on : Bool) (seen : List Char) :
    List Char → Option (Flags × List Char)
  | [] => none
  | c :: cs =>
    if c = ':' ∨ c = ')' then
      if seen.head? = some '-' ∨ (seen.isEmpty ∧ c = ')') then none else some (flags, c :: cs)
    else if seen.contains c then none
    else if c = '-' then readFlags flags false (c :: seen) cs
    else (flags.switch? on c).bind fun flags => readFlags flags on (c :: seen) cs

/-- A character of a group name after the first one. -/
def isNameChar (c : Char) : Bool :=
  c = '_' || c = '.' || c = '[' || c = ']' || Text.alphabetic.has c || Text.numeric.has c

/-- A group name up to its closing bracket. Each name is given once. -/
def readName : Reader Unit := do
  let (name, after) := (← rest).span (· ≠ '>')
  let isName := match name with
    | [] => false
    | first :: others => (first = '_' || Text.alphabetic.has first) && others.all isNameChar
  if after.isEmpty || !isName || (← get).names.contains name then failure
  else modify fun reading => { reading with rest := after.drop 1, names := name :: reading.names }

def nextGroup : Reader Nat := do
  modify fun reading => { reading with groups := reading.groups + 1 }
  return (← get).groups

/-- An opening parenthesis and what belongs to it. -/
def readOpening (flags : Flags) : Reader Opening := do
  dropWithBlanks flags
  let looksAround := [['?', '='], ['?', '!'], ['?', '<', '='], ['?', '<', '!']]
  if looksAround.any (·.isPrefixOf (← get).rest) then failure
  else if ← accept ['?', 'P', '<'] then
    let index ← nextGroup
    readName
    return .group index flags
  else if ← accept ['?', '<'] then
    let index ← nextGroup
    readName
    return .group index flags
  else if ← accept ['?'] then
    let (flags, after) ← readFlags flags true [] (← rest)
    goOn (after.drop 1)
    return if after.head? = some ')' then .directive flags else .group none flags
  else return .group (← nextGroup) flags

/-- A decimal number of at most 32 bits between blanks. -/
def readCount (flags : Flags) : Reader Nat := do
  goOn (Text.trimLeft (← rest))
  let digits ← span flags Char.isDigit
  let _ ← span flags Text.isBlankChar
  let count := digits.foldl (fun n c => n * 10 + (c.toNat - 48)) 0
  if digits.isEmpty || 0x100000000 ≤ count then failure else return count

/-- A question mark makes the repetition before it lazy. -/
def readLazily : Reader Bool :=
  accept ['?']

/-- The bounds of a repetition and whether it is marked as lazy. -/
def readBounds (flags : Flags) : Reader (Nat × Option Nat × Bool) := do
  match ← current with
  | '?' =>
    drop
    return (0, some 1, ← readLazily)
  | '*' =>
    drop
    return (0, none, ← readLazily)
  | '+' =>
    drop
    return (1, none, ← readLazily)
  | _ =>
    dropWithBlanks flags
    let low ← readCount flags
    let high ←
      if (← current) = ',' then do
        dropWithBlanks flags
        if (← current) = '\x7d' then pure none else some <$> readCount flags
      else pure (some low)
    if (← current) = '\x7d' ∧ high.all (low ≤ ·) then
      dropWithBlanks flags
      return (low, high, ← readLazily)
    else failure

/-- A character, set or anchor. -/
def readAtom (flags : Flags) : Reader Part := do
  match ← current with
  | '[' =>
    let (set, depth) ← readSet flags (← rest).length
    return { expr := .ofSet set, depth }
  | '\\' =>
    drop
    match ← readEscape flags with
    | .char c => return { expr := flags.char c }
    | .set s => return { expr := .ofSet s }
    | .anchor a => return { expr := .anchor a }
  | c =>
    drop
    match c with
    | '.' => return { expr := .ofSet (← flags.dot?) }
    | '^' => return { expr := .anchor flags.start }
    | '$' => return { expr := .anchor flags.stop }
    | c => return { expr := flags.char c }

/-- Alternatives up to the end of their group. `branches` are those already read and `parts` the
parts of the one that is being read, the last one first. -/
def readAlternatives (flags : Flags) (branches parts : List Part) : Nat → Reader Part
  | 0 => failure
  | fuel + 1 => do
    skipBlanks flags
    let done := Part.sequence parts.reverse
    match ← peek with
    | none => return .choice (done :: branches).reverse
    | some c =>
      if c = ')' then return .choice (done :: branches).reverse
      else if c = '|' then
        drop
        readAlternatives flags (done :: branches) [] fuel
      else if c = '(' then
        match ← readOpening flags with
        | .directive flags =>
          readAlternatives flags branches ({ expr := .empty, isDirective := true } :: parts) fuel
        | .group index inner =>
          let body ← readAlternatives inner [] [] fuel
          if ← accept [')'] then
            let expr := match index with
              | some index => .group index body.expr
              | none => body.expr
            readAlternatives flags branches ({ expr, depth := body.depth + 1 } :: parts) fuel
          else failure
      else if c = '?' ∨ c = '*' ∨ c = '+' ∨ c = '\x7b' then
        match parts with
        | [] => failure
        | part :: parts =>
          if part.isDirective then failure
          else
            let (low, high, lazily) ← readBounds flags
            let expr := part.expr.times low high (lazily != flags.swapLazy)
            readAlternatives flags branches ({ expr, depth := part.depth + 1 } :: parts) fuel
      else
        let part ← readAtom flags
        readAlternatives flags branches (part :: parts) fuel

end Reader

end RecordQuery.Pattern
