import RecordQuery.Derive.Grammar.Pattern
import RecordQuery.Derive.Literal
import RecordQuery.Text.Split

/-! # Expressions in source text

Operands are read with what follows them, and operators bind them by precedence. Comparisons and
ranges do not chain.
-/

namespace RecordQuery.Derive

namespace Grammar

open Reader

/-! ### Operators -/

/-- The marks of operators with two operands, those first that others begin with. -/
def operators : List (List Char × Precedence) :=
  [(['+', '='], .assign), (['-', '='], .assign), (['*', '='], .assign), (['/', '='], .assign),
    (['%', '='], .assign), (['^', '='], .assign), (['&', '='], .assign), (['|', '='], .assign),
    (['<', '<', '='], .assign), (['>', '>', '='], .assign), (['&', '&'], .and), (['|', '|'], .or),
    (['<', '<'], .shift), (['>', '>'], .shift), (['=', '='], .compare), (['<', '='], .compare),
    (['!', '='], .compare), (['>', '='], .compare), (['+'], .sum), (['-'], .sum),
    (['*'], .product), (['/'], .product), (['%'], .product), (['^'], .bitXor), (['&'], .bitAnd),
    (['|'], .bitOr), (['<'], .compare), (['>'], .compare)]

def operatorAt? (tokens : List Token) : Option (List Char × Precedence) :=
  operators.find? fun (cs, _) => startsWith cs tokens

/-- An assignment, and not the arrow of an arm. -/
def startsAssignment (tokens : List Token) : Bool :=
  startsWith ['='] tokens && !startsWith ['=', '>'] tokens

def precedenceAt (tokens : List Token) : Precedence :=
  match operatorAt? tokens with
  | some (_, precedence) => precedence
  | Option.none =>
    if startsAssignment tokens then .assign
    else if startsWith ['.', '.'] tokens then .range
    else if startsWord "as" tokens then .cast
    else .jump

/-- A member, and not a range. -/
def startsDot (tokens : List Token) : Bool :=
  startsWith ['.'] tokens && !startsWith ['.', '.'] tokens

/-- The right operand of an operator with the tighter operators behind it. -/
def rightOperand (g : Grammar) (structs : Bool) (precedence : Precedence) : Reader Unit := do
  go (← g.operand structs) ((← get).ahead.length + 1)
where
  go (form : ExpressionForm) : Nat → Reader Unit
    | 0 => failure
    | fuel + 1 => do
      let tokens := (← get).ahead
      let next := precedenceAt tokens
      if precedence.rank < next.rank || next = .assign && precedence = .assign then
        let form ← g.further form structs next
        if (← get).ahead.length < tokens.length then go form fuel

/-- A range that is open at its end may stand before these tokens. -/
def endsRange (structs : Bool) (tokens : List Token) : Bool :=
  tokens.isEmpty || startsDot tokens || startsWord "as" tokens ||
    !structs && startsGroup .brace tokens ||
    [[','], [';'], ['?'], ['=', '>'], ['='], ['+'], ['/'], ['%'], ['^'], ['>'], ['<', '='],
      ['!', '='], ['-', '='], ['*', '='], ['&', '='], ['|', '='], ['<', '<', '=']].any
      fun cs => startsWith cs tokens

def rangeEnd (g : Grammar) (structs : Bool) : Reader Unit := do
  let closed ← limits
  if closed || !(← peek (endsRange structs)) then g.rightOperand structs .range

/-- What cannot follow a conversion without parentheses. -/
def startsTrailer (tokens : List Token) : Bool :=
  startsDot tokens || startsWith ['?'] tokens || startsGroup .bracket tokens ||
    startsGroup .paren tokens

def readFurther (g : Grammar) (form : ExpressionForm) (structs : Bool) (base : Precedence) :
    Reader ExpressionForm := do
  go form ((← get).ahead.length + 1)
where
  go (form : ExpressionForm) : Nat → Reader ExpressionForm
    | 0 => failure
    | fuel + 1 => do
      if form = .range then return form
      let tokens := (← get).ahead
      match operatorAt? tokens with
      | some (cs, precedence) =>
        if precedence.rank < base.rank then return form
        if precedence = .compare && form = .comparison then failure
        marks cs
        g.rightOperand structs precedence
        go (if precedence = .compare then .comparison else .other) fuel
      | Option.none =>
        if base.rank ≤ Precedence.assign.rank && startsAssignment tokens then
          take 1
          g.rightOperand structs .assign
          go .other fuel
        else if base.rank ≤ Precedence.range.rank && startsWith ['.', '.'] tokens then
          g.rangeEnd structs
          go .range fuel
        else if startsWord "as" tokens then
          take 1
          g.anyType false
          if ← peek startsTrailer then failure
          go .other fuel
        else return form

/-! ### What follows an operand -/

/-- The parts of a number with points in it, each of which numbers a part of a value. -/
def splitMembers (spelled : String) : Option (List Nat) :=
  (Text.split '.' spelled).mapM fun part => match readNumber part.toList with
    | some (.integer (some n), []) => if n < 0x100000000 then some n else Option.none
    | _ => Option.none

def memberTokens : List Nat → List Token
  | [] => []
  | [n] => [.literal (toString n) (.integer (some n))]
  | n :: ns => .literal (toString n) (.integer (some n)) :: .mark '.' false :: memberTokens ns

/-- A member behind its point. Two of them may look like one number, and the second point behind a
number may look like a part of it. -/
def trailingMember (g : Grammar) : Reader Unit := do
  match (← get).ahead with
  | .literal spelled .fraction :: _ =>
    dropped (take 1)
    let trailing := spelled.toList.getLast? = some '.'
    match splitMembers (if trailing then String.ofList spelled.toList.dropLast else spelled) with
    | some members => keep (memberTokens members)
    | Option.none => failure
    if trailing then
      keep [.mark '.' false]
      access
  | _ => access
where
  access : Reader Unit := do
    if ← acceptWord "await" then return ()
    let named ← member
    let applied ← if named then acceptMarks [':', ':'] else pure false
    if applied then
      marks ['<']
      let _ ← orderedParts (g.argument (g.anyBound false true))
      marks ['>']
    if named && (applied || (← peek (startsGroup .paren))) then
      let _ ← inside .paren (separated g.anyExpression)

/-- Calls, members, indices and question marks. -/
def trailers (g : Grammar) (form : ExpressionForm) : Reader ExpressionForm := do
  go form ((← get).ahead.length + 1)
where
  go (form : ExpressionForm) : Nat → Reader ExpressionForm
    | 0 => failure
    | fuel + 1 => do
      let tokens := (← get).ahead
      if startsGroup .paren tokens then
        let _ ← inside .paren (separated g.anyExpression)
        go .other fuel
      else if startsDot tokens && form != .range then
        take 1
        g.trailingMember
        go .other fuel
      else if startsGroup .bracket tokens then
        inside .bracket g.anyExpression
        go .other fuel
      else if startsWith ['?'] tokens && form != .range then
        take 1
        go .other fuel
      else return form

/-! ### Operands -/

def literalForm : Reader ExpressionForm := do
  let form : ExpressionForm := match (← get).ahead with
    | .literal _ (.text value) :: _ => .text value
    | _ => .other
  literal
  return form

/-- A field of a value that is made, with the expression for it or just its name. -/
def fieldValue (g : Grammar) : Reader Unit := do
  if ← acceptMarks ['.', '.'] then
    if !(← atEnd) then
      g.anyExpression
      leave
  else
    g.anyAttributes
    let named ← member
    if !named || (← peek (startsWith [':'])) then
      marks [':']
      g.anyExpression

/-- A path, a macro call, or a value made from fields. -/
def pathExpression (g : Grammar) (structs : Bool) : Reader ExpressionForm := do
  let path ← g.valuePath
  let tokens := (← get).ahead
  if !path.qualified && path.bare && startsBang tokens then
    macroCall
    return if startsGroup .brace (afterFirst tokens) then .bracedCall else .other
  if structs && startsGroup .brace tokens then
    let _ ← inside .brace (separated g.fieldValue)
  return .other

def closureParameter (g : Grammar) : Reader Unit := do
  g.anyAttributes
  let _ ← g.pattern
  if ← acceptMarks [':'] then g.anyType true

def closure (g : Grammar) (structs : Bool) : Reader Unit := do
  let _ ← g.ranged
  optionalWord "const"
  optionalWord "static"
  optionalWord "async"
  optionalWord "move"
  marks ['|']
  let _ ← listUpTo [','] (startsWith ['|']) g.closureParameter
  marks ['|']
  if ← acceptMarks ['-', '>'] then
    g.anyType true
    g.block false
  else
    let _ ← g.expression structs

def startsExpression (tokens : List Token) : Bool :=
  let single (c : Char) (others : List Char) : Bool :=
    startsWith [c] tokens && others.all fun d => !startsWith [c, d] tokens
  startsAnyWord tokens || startsAnyGroup tokens || startsLiteral tokens || single '!' ['='] ||
    single '-' ['=', '>'] || single '*' ['='] || single '|' ['='] || single '&' ['='] ||
    startsWith ['.', '.'] tokens || startsArguments tokens || startsWith [':', ':'] tokens ||
    startsLifetime tokens || startsWith ['#'] tokens

def jumpValue (g : Grammar) : Reader Unit := do
  if ← peek startsExpression then g.anyExpression

def branches (g : Grammar) : Nat → Reader Unit
  | 0 => failure
  | fuel + 1 => do
    word "if"
    let _ ← g.expression false
    g.block false
    if ← acceptWord "else" then
      if ← peek (startsWord "if") then branches g fuel else g.block false

def labelled (g : Grammar) : Reader Unit := do
  if ← acceptWord "while" then
    let _ ← g.expression false
  else if ← acceptWord "for" then
    g.anyAlternatives
    word "in"
    let _ ← g.expression false
  else optionalWord "loop"
  g.block true

/-- A closure with lifetimes rather than a loop. -/
def startsRanged (tokens : List Token) : Bool :=
  let second := afterFirst tokens
  let third := afterFirst second
  startsWord "for" tokens && startsWith ['<'] second &&
    (startsLifetime third || startsWith ['>'] third)

def startsClosure (tokens : List Token) : Bool :=
  let second := afterFirst tokens
  startsWith ['|'] tokens || startsOneOf ["move", "static"] tokens || startsRanged tokens ||
    startsWord "const" tokens && !startsGroup .brace second ||
    startsWord "async" tokens && (startsWith ['|'] second || startsWord "move" second)

def startsAsync (tokens : List Token) : Bool :=
  let second := afterFirst tokens
  startsWord "async" tokens && (startsGroup .brace second ||
    startsWord "move" second && startsGroup .brace (afterFirst second))

/-- The operand ends in a block, which ends a statement too. -/
def startsBlockLike (tokens : List Token) : Bool :=
  let second := afterFirst tokens
  startsOneOf ["if", "while", "loop", "match", "unsafe"] tokens || startsGroup .brace tokens ||
    startsOneOf ["try", "const"] tokens && startsGroup .brace second || startsLifetime tokens ||
    startsWord "for" tokens && !startsRanged tokens

/-- The path of an expression, or a macro that is named like a keyword. -/
def startsValuePath (tokens : List Token) : Bool :=
  let second := afterFirst tokens
  startsPath tokens ||
    startsWord "try" tokens && (startsWith ['!'] second || startsWith [':', ':'] second)

/-- An arm of a choice. A comma may be left out behind a block. -/
def arm (g : Grammar) : Reader Unit := do
  g.anyAttributes
  g.anyAlternatives
  if ← acceptWord "if" then g.anyExpression
  marks ['=', '>']
  let form ← g.bounded
  if form = .block || (← atEnd) then optional 1 (startsWith [',']) else marks [',']

def blockLike (g : Grammar) : Reader Unit := do
  if ← peek (startsWord "if") then g.branches ((← get).ahead.length + 1)
  else if ← acceptWord "match" then
    let _ ← g.expression false
    let _ ← inside .brace do
      g.innerAttributes
      upToEnd g.arm
  else if ← acceptWord "try" then g.block false
  else if ← peek (startsOneOf ["unsafe", "const"]) then
    take 1
    g.block true
  else
    if ← accept 2 startsLifetime then
      marks [':']
      if !(← peek fun t => startsOneOf ["while", "for", "loop"] t || startsGroup .brace t) then
        failure
    g.labelled

def jump (g : Grammar) (structs : Bool) : Reader Unit := do
  if ← acceptWord "break" then
    if ← accept 2 startsLifetime then
      if ← peek (startsWith [':']) then failure
    if structs || !(← peek (startsGroup .brace)) then g.jumpValue
  else if ← acceptWord "continue" then optional 2 startsLifetime
  else if ← peek (startsWord "become") then
    asWritten do
      take 1
      g.anyExpression
  else
    take 1
    g.jumpValue

/-- A list of values, or a value and how often it is repeated. -/
def arrayItems (g : Grammar) : Reader Unit := do
  if ← atEnd then return ()
  g.anyExpression
  if ← acceptMarks [';'] then g.anyExpression
  else if ← acceptMarks [','] then
    let _ ← separated g.anyExpression
  else if !(← atEnd) then failure

/-- An operand without what follows it. -/
def atom (g : Grammar) (structs : Bool) : Reader ExpressionForm := do
  let tokens := (← get).ahead
  if startsLiteral tokens then return ← literalForm
  if startsAsync tokens then
    take 1
    optionalWord "move"
    g.block false
  else if startsClosure tokens then g.closure structs
  else if startsBlockLike tokens then
    g.blockLike
    return .block
  else if startsWord "builtin" tokens && startsWith ['#'] (afterFirst tokens) then
    take 2
    let _ ← name
    require 1 (startsGroup .paren)
  else if startsValuePath tokens then return ← g.pathExpression structs
  else if startsGroup .paren tokens then
    let _ ← inside .paren (separated g.anyExpression)
  else if startsGroup .bracket tokens then inside .bracket g.arrayItems
  else if startsOneOf ["break", "continue", "return", "yield", "become"] tokens then g.jump structs
  else if startsWord "let" tokens then
    take 1
    g.anyAlternatives
    marks ['=']
    let _ ← g.further (← g.operand structs) structs .compare
  else if startsWith ['.', '.'] tokens then
    g.rangeEnd structs
    return .range
  else word "_"
  return .other

/-- An expression at the beginning of a statement or an arm. A block in front ends it, unless a
member or a question mark follows. -/
def readBounded (g : Grammar) : Reader ExpressionForm := do
  g.anyAttributes
  if ← peek startsBlockLike then
    g.blockLike
    if ← peek fun t => startsDot t || startsWith ['?'] t then
      g.further (← g.trailers .block) true .jump
    else return .block
  else g.further (← g.operand true) true .jump

/-- An operand with the signs before it and what follows it. -/
def readOperand (g : Grammar) (structs : Bool) : Reader ExpressionForm := do
  let attributes ← g.attributes
  if ← acceptMarks ['&'] then
    let raw ← accept 1 fun t => startsWord "raw" t && startsOneOf ["mut", "const"] (afterFirst t)
    let mutable ← acceptWord "mut"
    if raw && !mutable then word "const"
    let _ ← g.operand structs
    return .other
  else if ← accept 1 fun t => startsWith ['*'] t || startsWith ['!'] t || startsWith ['-'] t then
    let _ ← g.operand structs
    return .other
  else
    let form ← g.trailers (← g.atom structs)
    if form = .range && !attributes.isEmpty then failure
    return form

def readExpression (g : Grammar) (structs : Bool) : Reader ExpressionForm := do
  g.further (← g.operand structs) structs .jump

end Grammar

end RecordQuery.Derive
