import RecordQuery.Derive.Grammar.Type

/-! # Patterns in source text

Patterns stand where values are taken apart: in arms, loops, closures and local declarations.
-/

namespace RecordQuery.Derive

namespace Reader

/-- The name or the number of a part of a value, and whether it is a name. A number is written in
decimal digits. -/
def member : Reader Bool := do
  match (← get).ahead with
  | .literal _ (.integer (some n)) :: _ =>
    if n < 0x100000000 then
      dropped (take 1)
      keep [.literal (toString n) (.integer (some n))]
      return false
    else failure
  | _ =>
    let _ ← name
    return true

/-- The dots of a range, and whether its end belongs to it. -/
def limits : Reader Bool := do
  if ← peek (startsWith ['.', '.', '.']) then failure
  if ← acceptMarks ['.', '.', '='] then return true
  marks ['.', '.']
  return false

/-- The dots of a range in a pattern, of which there may be three. -/
def patternLimits : Reader Bool := do
  if ← peek (startsWith ['.', '.', '.']) then
    dropped (take 3)
    keep [.mark '.' true, .mark '.' true, .mark '=' false]
    return true
  else limits

end Reader

namespace Grammar

open Reader

def startsAlternative (tokens : List Token) : Bool :=
  startsWith ['|'] tokens && !startsWith ['|', '|'] tokens && !startsWith ['|', '='] tokens

/-- Patterns with bars between them, of which one may stand in front. -/
def alternatives (g : Grammar) : Reader PatternForm := do
  let leading ← acceptMarks ['|']
  let form ← g.pattern
  let more ← whileSeen startsAlternative do
    take 1
    let _ ← g.pattern
  return if leading || !more.isEmpty then .other else form

def anyAlternatives (g : Grammar) : Reader Unit := do
  let _ ← g.alternatives

def rangeBound (g : Grammar) : Reader Bool := do
  let tokens := (← get).ahead
  if tokens.isEmpty || startsWith ['|'] tokens || startsWith ['='] tokens || startsColon tokens ||
      startsWith [','] tokens || startsWith [';'] tokens || startsWord "if" tokens then
    return false
  if startsLiteral tokens then literal
  else if startsPath tokens then
    let _ ← g.valuePath
  else
    word "const"
    g.block true
  return true

def rangeFrom (g : Grammar) : Reader PatternForm := do
  let closed ← patternLimits
  if ← g.rangeBound then return .other
  if closed then failure
  return .openRange

def fieldPattern (g : Grammar) : Reader Unit := do
  g.anyAttributes
  if ← acceptMarks ['.', '.'] then leave
  else if ← peek (startsOneOf ["box", "ref", "mut"]) then
    optionalWord "box"
    optionalWord "ref"
    optionalWord "mut"
    let _ ← name
  else
    let named ← member
    if !named || (← peek (startsWith [':'])) then
      marks [':']
      g.anyAlternatives

def pathPattern (g : Grammar) : Reader PatternForm := do
  let path ← g.valuePath
  let tokens := (← get).ahead
  if !path.qualified && path.bare && startsBang tokens then macroCall
  else if startsGroup .brace tokens then
    let _ ← inside .brace (separated g.fieldPattern)
  else if startsGroup .paren tokens then
    let _ ← inside .paren (separated g.anyAlternatives)
  else if startsWith ['.', '.'] tokens then return ← g.rangeFrom
  return .other

/-- The pattern begins with a path rather than with a new name. -/
def startsPathPattern (tokens : List Token) : Bool :=
  let second := afterFirst tokens
  startsName tokens && (startsWith [':', ':'] second || startsWith ['!'] second ||
    startsGroup .brace second || startsGroup .paren second || startsWith ['.', '.'] second) ||
  startsWord "self" tokens && startsWith [':', ':'] second || startsWith [':', ':'] tokens ||
    startsWith ['<'] tokens || startsOneOf ["Self", "super", "crate"] tokens

/-- A pattern without alternatives. -/
def readPattern (g : Grammar) : Reader PatternForm := do
  let tokens := (← get).ahead
  if startsPathPattern tokens then g.pathPattern
  else if startsWord "_" tokens then
    take 1
    return .other
  else if startsWord "box" tokens then
    take 1
    let _ ← g.pattern
    return .other
  else if startsWith ['-'] tokens || startsLiteral tokens || startsWord "const" tokens then
    let _ ← g.rangeBound
    if ← peek (startsWith ['.', '.']) then g.rangeFrom else return .other
  else if startsOneOf ["ref", "mut", "self"] tokens || startsName tokens then
    optionalWord "ref"
    optionalWord "mut"
    let _ ← nameOr ["self"]
    if ← acceptMarks ['@'] then
      let _ ← g.pattern
    return .other
  else if startsWith ['&'] tokens then
    take 1
    optionalWord "mut"
    let _ ← g.pattern
    return .other
  else if startsGroup .paren tokens then
    let _ ← inside .paren (separated g.anyAlternatives)
    return .other
  else if startsGroup .bracket tokens then
    let _ ← inside .bracket (separated do
      if (← g.alternatives) = .openRange then failure)
    return .other
  else
    let closed ← limits
    if ← g.rangeBound then return .openRange
    if closed then failure
    return .rest

end Grammar

end RecordQuery.Derive
