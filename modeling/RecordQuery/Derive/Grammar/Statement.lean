import RecordQuery.Derive.Grammar.Expression

/-! # Statements in source text

A block holds local declarations, declarations among others, and expressions. An expression needs a
semicolon behind it unless it ends in a block or ends the block.
-/

namespace RecordQuery.Derive

namespace Grammar

open Reader

def localDeclaration (g : Grammar) : Reader Unit := do
  let _ ← g.pattern
  if ← acceptMarks [':'] then g.anyType true
  if ← acceptMarks ['='] then
    g.anyExpression
    if !startsGroup .brace (← get).kept && (← acceptWord "else") then g.block false
  marks [';']

def behindPath? (tokens : List Token) : Option (List Token) :=
  (barePath.run { ahead := tokens }).map fun (_, r) => r.ahead

def startsDeclaringCall (tokens : List Token) : Bool :=
  match behindPath? tokens with
  | some rest => startsWith ['!'] rest &&
    (startsName (afterFirst rest) || startsWord "try" (afterFirst rest))
  | Option.none => false

/-- A macro call in braces that is no operand. -/
def startsBracedCall (tokens : List Token) : Bool :=
  match behindPath? tokens with
  | some rest =>
    let third := afterFirst (afterFirst rest)
    startsWith ['!'] rest && startsGroup .brace (afterFirst rest) &&
      !(startsDot third || startsWith ['?'] third)
  | Option.none => false

def startsItem (tokens : List Token) : Bool :=
  let second := afterFirst tokens
  let third := afterFirst second
  startsOneOf ["pub", "extern", "use", "fn", "mod", "type", "struct", "enum", "trait", "impl",
    "macro"] tokens ||
  startsWord "crate" tokens && !startsWith [':', ':'] second ||
  startsWord "static" tokens && (startsWord "mut" second || startsName second) ||
  startsWord "const" tokens && !(startsGroup .brace second || startsWord "static" second ||
    startsWord "async" second && !startsOneOf ["unsafe", "extern", "fn"] third ||
    startsWord "move" second || startsWith ['|'] second) ||
  startsWord "unsafe" tokens && !startsGroup .brace second ||
  startsWord "async" tokens && startsOneOf ["unsafe", "extern", "fn"] second ||
  startsWord "union" tokens && startsName second ||
  startsWord "auto" tokens && startsWord "trait" second ||
  startsWord "default" tokens && startsOneOf ["unsafe", "impl"] second

/-- A statement, and whether nothing but the end of the block may follow. -/
def statement (g : Grammar) : Reader Bool := do
  g.anyAttributes
  let tokens := (← get).ahead
  if startsBracedCall tokens then
    let _ ← barePath
    macroCall
    optional 1 (startsWith [';'])
    return false
  else if startsWord "let" tokens then
    take 1
    g.localDeclaration
    return false
  else if startsItem tokens || startsDeclaringCall tokens then
    g.item
    return false
  else
    let form ← g.bounded
    if ← acceptMarks [';'] then return false
    return form != .block && form != .bracedCall

def statements (g : Grammar) : Nat → Reader Unit
  | 0 => failure
  | fuel + 1 => do
    let _ ← whileSeen (startsWith [';']) (take 1)
    if ← atEnd then return ()
    let last ← g.statement
    if ← atEnd then return ()
    if last then failure
    statements g fuel

def readBlock (g : Grammar) (attributed : Bool) : Reader Unit :=
  inside .brace do
    if attributed then g.innerAttributes
    g.statements ((← get).ahead.length + 1)

end Grammar

end RecordQuery.Derive
