import RecordQuery.Derive.Grammar.Attribute

/-! # Types in source text

Paths with their arguments, bounds, the parameters of generic declarations, and types.
-/

namespace RecordQuery.Derive

/-! ### Parts in order -/

/-- One of several parts with commas between them. Parts that are lifetimes are written first. -/
structure OrderedPart where
  tokens : List Token
  lifetime : Bool
  comma : Bool

namespace OrderedPart

def commaToken : List Token := [.mark ',' false]

/-- Writes parts after one another, with a comma in front of one that has none behind its
predecessor. -/
def join (separated : Bool) : List OrderedPart → List Token
  | [] => []
  | part :: rest =>
    (if separated || part.lifetime then [] else commaToken) ++ part.tokens ++
      (if part.comma then commaToken else []) ++ join part.comma rest

def tokensOf (parts : List OrderedPart) : List Token :=
  join true (parts.filter lifetime ++ parts.filter fun part => !part.lifetime)

end OrderedPart

namespace Reader

variable {α : Type}

/-- Parts with commas between them up to a closing angle bracket. Reading a part tells whether it
is a lifetime. -/
def orderedParts (part : Reader (α × Bool)) : Reader (List α) := do
  let parts ← go ((← get).ahead.length + 1)
  keep (OrderedPart.tokensOf (parts.map (·.2)))
  return parts.map (·.1)
where
  go : Nat → Reader (List (α × OrderedPart))
    | 0 => failure
    | fuel + 1 => do
      if ← peek (startsWith ['>']) then return []
      let ((x, lifetime), tokens) ← captured part
      if ← peek (startsWith ['>']) then return [(x, ⟨tokens, lifetime, false⟩)]
      dropped (marks [','])
      return (x, ⟨tokens, lifetime, true⟩) :: (← go fuel)

end Reader

/-! ### Looking ahead -/

/-- A value as an argument: a literal or a block. -/
def startsConstant (tokens : List Token) : Bool :=
  startsLiteral tokens || startsGroup .brace tokens

def startsPath (tokens : List Token) : Bool :=
  startsName tokens || startsOneOf pathWords tokens || startsWith [':', ':'] tokens ||
    startsWith ['<'] tokens

def startsFunction (tokens : List Token) : Bool :=
  startsOneOf ["fn", "unsafe", "extern"] tokens

/-- What may follow a plus sign in a sum of bounds. -/
def startsBound (tokens : List Token) : Bool :=
  startsAnyWord tokens || startsWith [':', ':'] tokens || startsWith ['?'] tokens ||
    startsLifetime tokens || startsGroup .paren tokens

def startsArguments (tokens : List Token) : Bool :=
  startsWith ['<'] tokens && !startsWith ['<', '='] tokens && !startsWith ['<', '<', '='] tokens

/-- A colon that is no part of a separator of names. -/
def startsColon (tokens : List Token) : Bool :=
  startsWith [':'] tokens && !startsWith [':', ':'] tokens

/-- An exclamation mark that is no part of an operator. -/
def startsBang (tokens : List Token) : Bool :=
  startsWith ['!'] tokens && !startsWith ['!', '='] tokens

/-- Parameters of a generic declaration rather than a path that begins at a type. -/
def startsParameters (tokens : List Token) : Bool :=
  let second := afterFirst tokens
  let third := afterFirst second
  startsWith ['<'] tokens && (startsWith ['>'] second || startsWith ['#'] second ||
    startsWord "const" second || (startsLifetime second || startsName second) &&
      (startsWith ['>'] third || startsWith [','] third || startsColon third ||
        startsWith ['='] third))

/-- The list of conditions ends before the body. -/
def endsConditions (tokens : List Token) : Bool :=
  tokens.isEmpty || startsGroup .brace tokens || startsWith [','] tokens ||
    startsWith [';'] tokens || startsColon tokens || startsWith ['='] tokens

/-! ### Paths -/

/-- What matters of a path of names. -/
structure TypePath where
  name : String
  /-- The arguments of the last name in angle brackets. -/
  arguments : Option (List (Option TypeExpr))
  /-- No name has arguments. -/
  bare : Bool
  /-- One name without a separator in front. -/
  single : Bool
  /-- The path begins at a type in angle brackets. -/
  qualified : Bool

namespace TypePath

def append (path next : TypePath) : TypePath :=
  { next with bare := path.bare && next.bare, single := false, qualified := path.qualified }

/-- The last name and its arguments. -/
def applied? (path : TypePath) : Option (String × List (Option TypeExpr)) :=
  path.arguments.map (path.name, ·)

end TypePath

namespace Grammar

open Reader

def constant (g : Grammar) : Reader Unit := do
  if ← peek startsLiteral then literal else g.block true

def bindsLifetimes (g : Grammar) (parameter : Reader Unit) : Reader Bool := do
  if ← acceptWord "for" then
    marks ['<']
    let _ ← listUpTo [','] (startsWith ['>']) do
      g.anyAttributes
      parameter
    marks ['>']
    return true
  else return false

/-- What a name is applied to in angle brackets, given a reader of bounds. -/
def argument (g : Grammar) (bound : Reader Bool) : Reader (Option TypeExpr × Bool) := do
  if ← peek fun t => startsLifetime t && !startsWith ['+'] (afterFirst t) then
    lifetime
    return (Option.none, true)
  if ← peek startsConstant then
    g.constant
    return (Option.none, false)
  let (type, role) ← g.type true
  if role = .name then
    if ← acceptMarks ['='] then
      if ← peek startsConstant then g.constant else g.anyType true
      return (Option.none, false)
    if ← acceptMarks [':'] then
      let _ ← chain ['+'] (fun t => startsWith [','] t || startsWith ['>'] t) bound
      return (Option.none, false)
  return (some type, false)

/-- A name with its arguments. In an expression a separator stands before them. -/
def segment (g : Grammar) (bound : Reader Bool) (inExpression : Bool) : Reader TypePath := do
  if ← peek (startsOneOf ["super", "self", "crate", "try"]) then
    return ⟨← anyWord, Option.none, true, true, false⟩
  let name ← nameOr ["Self"]
  if ← peek fun t => !inExpression && startsArguments t ||
      startsWith [':', ':'] t && startsWith ['<'] (t.drop 2) then
    optional 2 (startsWith [':', ':'])
    marks ['<']
    let arguments ← orderedParts (g.argument bound)
    marks ['>']
    return ⟨name, some arguments, false, true, false⟩
  return ⟨name, Option.none, true, true, false⟩

def furtherSegments (g : Grammar) (bound : Reader Bool) (inExpression : Bool) :
    Nat → TypePath → Reader TypePath
  | 0, _ => failure
  | fuel + 1, path => do
    if ← peek fun t => startsWith [':', ':'] t &&
        (path.qualified || !startsGroup .paren (t.drop 2)) then
      marks [':', ':']
      let next ← g.segment bound inExpression
      furtherSegments g bound inExpression fuel (path.append next)
    else return path

def path (g : Grammar) (bound : Reader Bool) (inExpression : Bool) : Reader TypePath := do
  let rooted ← acceptMarks [':', ':']
  let first ← g.segment bound inExpression
  g.furtherSegments bound inExpression ((← get).ahead.length + 1)
    { first with single := !rooted }

def qualifiedPath (g : Grammar) (bound : Reader Bool) (inExpression : Bool) : Reader TypePath := do
  if ← acceptMarks ['<'] then
    g.anyType true
    if ← acceptWord "as" then
      let _ ← g.path bound false
    marks ['>']
    marks [':', ':']
    let first ← g.segment bound inExpression
    g.furtherSegments bound inExpression ((← get).ahead.length + 1)
      { first with single := false, qualified := true }
  else g.path bound inExpression

/-! ### Bounds -/

def result (g : Grammar) (plus : Bool) : Reader Unit := do
  if ← acceptMarks ['-', '>'] then g.anyType plus

/-- The end of a path with empty arguments, which are not written before those of a function. -/
def withoutEmptyArguments (path : TypePath) (tokens : List Token) : List Token :=
  match path.arguments with
  | some [] =>
    let tokens := tokens.take (tokens.length - 2)
    let before := tokens.length - 2
    if startsWith [':', ':'] (tokens.drop before) then tokens.take before else tokens
  | _ => tokens

/-- The path of a trait, with the parameters and the result of a function behind it. -/
def traitPath (g : Grammar) (bound : Reader Bool) : Reader Unit := do
  let (path, tokens) ← captured (g.path bound false)
  if path.arguments.all List.isEmpty && (← peek fun t =>
      startsGroup .paren t || startsWith [':', ':'] t && startsGroup .paren (t.drop 2)) then
    keep (withoutEmptyArguments path tokens)
    dropped (optional 2 (startsWith [':', ':']))
    let _ ← inside .paren (separated (g.anyType true))
    g.result false
  else keep tokens

/-- A colon with what is read behind it. Neither is written if nothing is read. -/
def withColon (read : Reader Bool) : Reader Unit := do
  if ← dropped (acceptMarks [':']) then
    let (found, tokens) ← captured read
    if found then keep (.mark ':' false :: tokens)

/-- The lifetimes that a type may make use of. -/
def capture : Reader Unit := do
  word "use"
  marks ['<']
  let _ ← orderedParts (α := Unit) do
    if ← peek startsLifetime then
      lifetime
      return ((), true)
    else
      let _ ← nameOr ["Self"]
      return ((), false)
  marks ['>']

mutual

def parameter (g : Grammar) : Nat → Reader Unit
  | 0 => failure
  | fuel + 1 => do
    if ← peek startsLifetime then
      lifetime
      withColon do
        return !(← chain ['+'] (fun t => t.isEmpty || startsWith [','] t || startsWith ['>'] t)
          lifetime).isEmpty
    else if ← acceptWord "const" then
      let _ ← name
      marks [':']
      g.anyType true
      if ← acceptMarks ['='] then
        if ← peek startsName then take 1 else g.constant
    else
      let _ ← nameOr []
      withColon do
        return !(← chain ['+'] (fun t => t.isEmpty || startsWith [','] t || startsWith ['>'] t ||
          startsWith ['='] t) (bound g fuel false true)).isEmpty
      if ← acceptMarks ['='] then g.anyType true

/-- A lifetime or a trait, and whether it is the latter. -/
def bound (g : Grammar) : Nat → Bool → Bool → Reader Bool
  | 0, _, _ => failure
  | fuel + 1, capturing, constant => do
    if ← peek startsLifetime then
      lifetime
      return false
    if ← peek (startsWord "use") then
      capture
      if capturing then return false else failure
    let before ← get
    let verbatim ← if ← peek (startsGroup .paren) then inside .paren (traitBound g fuel constant)
      else traitBound g fuel constant
    if verbatim then
      let rest := (← get).ahead
      set { before with ahead := rest }
      keep (before.ahead.take (before.ahead.length - rest.length))
    return true

/-- A trait, and whether it stands for traits that are constant. -/
def traitBound (g : Grammar) : Nat → Bool → Reader Bool
  | 0, _ => failure
  | fuel + 1, constant => do
    let ranged ← g.bindsLifetimes (parameter g fuel)
    let verbatim ← if ← peek (startsGroup .bracket) then do
        inside .bracket (word "const")
        pure true
      else acceptWord "const"
    if verbatim && !constant then failure
    let maybe ← acceptMarks ['?']
    if maybe && (ranged || (← peek (startsWord "for"))) then failure
    g.traitPath (bound g fuel false true)
    return verbatim

end

/-- Enough steps for the bounds of what is ahead. -/
def boundSteps : Reader Nat := do
  return 3 * (Token.listSize (← get).ahead + 2)

/-- A bound. The flags tell whether captured lifetimes and constant traits are allowed. -/
def anyBound (g : Grammar) (capturing constant : Bool) : Reader Bool := do
  g.bound (← boundSteps) capturing constant

def ranged (g : Grammar) : Reader Bool := do
  g.bindsLifetimes (g.parameter (← boundSteps))

/-- A sum of bounds, and for each of them whether it is a trait. -/
def bounds (g : Grammar) (plus capturing constant : Bool) : Reader (List Bool) := do
  go ((← get).ahead.length + 1)
where
  go : Nat → Reader (List Bool)
    | 0 => failure
    | fuel + 1 => do
      let first ← g.anyBound capturing constant
      if plus && (← acceptMarks ['+']) then
        if ← peek fun t => startsBound t || constant && startsGroup .bracket t then
          return first :: (← go fuel)
      return [first]

/-- The bounds of an object, of which one at least is a trait. -/
def properBounds (g : Grammar) (plus capturing constant : Bool) : Reader Unit := do
  if (← g.bounds plus capturing constant).all (! ·) then failure

def typePath (g : Grammar) : Reader TypePath :=
  g.qualifiedPath (g.anyBound false true) false

def valuePath (g : Grammar) : Reader TypePath :=
  g.qualifiedPath (g.anyBound false true) true

/-! ### Generic declarations -/

/-- The parameters of a declaration, and whether there are any. -/
def generics (g : Grammar) : Reader Bool := do
  if ← peek (startsWith ['<']) then
    let before ← get
    marks ['<']
    let parameters ← orderedParts do
      g.anyAttributes
      let lifetime ← peek startsLifetime
      if ← peek (startsWord "_") then take 1 else g.parameter (← boundSteps)
      return ((), lifetime)
    marks ['>']
    if parameters.isEmpty then modify fun r => { r with kept := before.kept }
    return !parameters.isEmpty
  else return false

def condition (g : Grammar) : Reader Unit := do
  if ← peek fun t => startsLifetime t && startsWith [':'] (t.drop 2) then
    lifetime
    marks [':']
    let _ ← chain ['+'] (fun t => endsConditions t || startsWith [':'] t) lifetime
  else
    let _ ← g.ranged
    g.anyType true
    marks [':']
    let _ ← chain ['+'] endsConditions (g.anyBound false true)

/-- Conditions on the parameters, and whether there is a list of them. -/
def conditions (g : Grammar) : Reader Bool := do
  if ← peek (startsWord "where") then
    let before ← get
    take 1
    if ← peek startsParameters then failure
    let conditions ← chain [','] endsConditions g.condition
    if conditions.isEmpty then modify fun r => { r with kept := before.kept }
    return true
  else return false

def anyConditions (g : Grammar) : Reader Unit := do
  let _ ← g.conditions

/-! ### Functions -/

def convention : Reader Unit := do
  if ← acceptWord "extern" then optional 1 startsText

def startsMutableSelf (tokens : List Token) : Bool :=
  startsWord "mut" tokens && startsWord "self" (afterFirst tokens)

/-- The parameter of a function type. The first one may be named `self`. -/
def functionParameter (g : Grammar) (first : Bool) : Reader Unit := do
  if first && (← peek startsMutableSelf) then
    asWritten do
      take 2
      if ← peek startsColon then
        take 1
        g.anyType true
  else
    let named ← accept 2 fun t => (startsName t || startsWord "_" t) && startsColon (afterFirst t)
    if first && named && (← peek startsMutableSelf) then take 2
    else
      if first && !named then optional 2 fun t => startsWord "self" t && startsColon (afterFirst t)
      g.anyType true

/-- The parameters of a function type. Three dots stand for any number of further ones. -/
def functionParameters (g : Grammar) : Bool → Nat → Reader Unit
  | _, 0 => failure
  | first, fuel + 1 => do
    if ← atEnd then return ()
    g.anyAttributes
    if ← peek fun t => startsWith ['.', '.', '.'] t || (startsName t || startsWord "_" t) &&
        startsWith [':'] (afterFirst t) && startsWith ['.', '.', '.'] (t.drop 2) then
      if !(← peek (startsWith ['.'])) then take 2
      marks ['.', '.', '.']
      optional 1 (startsWith [','])
    else
      g.functionParameter first
      if ← atEnd then return ()
      marks [',']
      functionParameters g false fuel

def functionType (g : Grammar) : Reader Unit := do
  optionalWord "unsafe"
  convention
  word "fn"
  inside .paren do
    g.functionParameters true ((← get).ahead.length + 1)
  g.result false

/-! ### Types -/

/-- The bounds behind plus signs, and whether there is a plus sign. -/
def moreBounds (g : Grammar) : Nat → Reader Bool
  | 0 => failure
  | fuel + 1 => do
    if ← acceptMarks ['+'] then
      let _ ← g.anyBound false false
      let _ ← moreBounds g fuel
      return true
    else return false

/-- The bounds behind plus signs, of which the last may have nothing behind it. -/
def furtherBounds (g : Grammar) : Nat → Reader Bool
  | 0 => failure
  | fuel + 1 => do
    if ← acceptMarks ['+'] then
      if ← peek startsBound then
        let _ ← g.anyBound false false
        let _ ← furtherBounds g fuel
      return true
    else return false

/-- What matters of a type: the last name of a path with its arguments, and the role. -/
abbrev Typing := Option (String × List (Option TypeExpr)) × TypeRole

def untyped (role : TypeRole) : Typing :=
  (Option.none, role)

/-- A bound has no more than one pair of parentheses. -/
def unwrapped : List Token → List Token
  | [.group .paren [.group .paren inner]] => [.group .paren inner]
  | tokens => tokens

/-- A type in parentheses, a tuple or a bound in parentheses. -/
def parenthesizedType (g : Grammar) (plus : Bool) (inner : List Token) : Reader Typing := do
  let steps := (← get).ahead.length + 1
  if inner.isEmpty then
    take 1
    return untyped .other
  else if startsLifetime inner then
    inside .paren (g.properBounds true false false)
    return untyped .other
  else if startsWith ['?'] inner then
    let _ ← inside .paren (g.traitBound (← boundSteps) false)
    return untyped (if ← g.moreBounds steps then .other else .bound)
  else
    let ((role, tuple), tokens) ← captured (inside .paren do
      let (_, role) ← g.type true
      if ← acceptMarks [','] then
        let _ ← separated (g.anyType true)
        return (role, true)
      else return (role, false))
    if plus && !tuple && role != .other && (← peek (startsWith ['+'])) then
      keep (if role = .bound then unwrapped tokens else tokens)
      let _ ← g.moreBounds steps
    else keep tokens
    return untyped .other

/-- A path as a type, or the beginning of a sum of bounds, with the lifetimes in front that a bound
ranges over. -/
def pathType (g : Grammar) (plus : Bool) (binder : List Token) : Reader Typing := do
  let (path, tokens) ← captured g.typePath
  if !path.qualified && path.bare && (← peek startsBang) then
    keep tokens
    macroCall
    return untyped .other
  keep (binder ++ tokens)
  if path.qualified then return (path.applied?, .other)
  if !binder.isEmpty || plus && (← peek (startsWith ['+'])) then
    let more ← if plus then g.furtherBounds ((← get).ahead.length + 1) else pure false
    return untyped (if more then .other else .bound)
  return (path.applied?, if path.single then .name else .path)

/-- A type, with the lifetimes that it ranges over in front. -/
def typing (g : Grammar) (plus : Bool) : Reader Typing := do
  let (ranged, binder) ← captured g.ranged
  let tokens := (← get).ahead
  if ranged && !(startsName tokens || startsFunction tokens || startsOneOf pathWords tokens) then
    failure
  match tokens with
  | .group .paren inner :: _ => g.parenthesizedType plus inner
  | .group .bracket _ :: _ =>
    inside .bracket do
      g.anyType true
      if ← acceptMarks [';'] then g.anyExpression
    return untyped .other
  | _ =>
    if startsFunction tokens then
      keep binder
      g.functionType
    else if startsPath tokens then return ← g.pathType plus binder
    else if startsWord "dyn" tokens && startsWith ['*'] (afterFirst tokens) then
      asWritten do
        take 2
        g.properBounds plus false false
    else if startsWord "dyn" tokens then
      take 1
      g.properBounds plus false false
    else if startsWord "impl" tokens then
      take 1
      g.properBounds plus true true
    else if startsWith ['*'] tokens then
      take 1
      require 1 (startsOneOf ["const", "mut"])
      g.anyType false
    else if startsWith ['&'] tokens then
      take 1
      optional 2 startsLifetime
      optionalWord "mut"
      g.anyType false
    else if startsWith ['!'] tokens then take 1
    else if startsWord "_" tokens then take 1
    else if startsLifetime tokens then g.properBounds true false false
    else failure
    return untyped .other

def readType (g : Grammar) (plus : Bool) : Reader (TypeExpr × TypeRole) := do
  let ((applied, role), tokens) ← captured (g.typing plus)
  keep tokens
  match applied with
  | some (name, arguments) => return (.applied tokens name arguments, role)
  | Option.none => return (.other tokens, role)

end Grammar

end RecordQuery.Derive
