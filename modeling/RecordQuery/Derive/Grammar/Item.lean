import RecordQuery.Derive.Grammar.Field
import RecordQuery.Derive.Grammar.Pattern

/-! # Declarations in source text

Functions, types, traits, modules and what else can be declared inside a block.
-/

namespace RecordQuery.Derive

namespace Grammar

open Reader

/-! ### Functions -/

/-- A function follows, perhaps after words that say how it is called. -/
def startsSignature (safe : Bool) (tokens : List Token) : Bool :=
  let skip (word : String) (tokens : List Token) : List Token :=
    if startsWord word tokens then tokens.tail else tokens
  let tokens := skip "async" (skip "const" tokens)
  let tokens := if safe && startsWord "safe" tokens then tokens.tail else skip "unsafe" tokens
  let tokens := if startsWord "extern" tokens then
      if startsText tokens.tail then tokens.tail.tail else tokens.tail
    else tokens
  startsWord "fn" tokens

def receiver (g : Grammar) : Reader Unit := do
  let reference ← acceptMarks ['&']
  if reference then optional 2 startsLifetime
  optionalWord "mut"
  word "self"
  if !reference && (← acceptMarks [':']) then g.anyType true

/-- The parameters of a function. The first one may be a receiver, and dots may be the last. -/
def signatureParameters (g : Grammar) : Bool → Nat → Reader Unit
  | _, 0 => failure
  | first, fuel + 1 => do
    if ← atEnd then return ()
    g.anyAttributes
    let dots (tokens : List Token) : Bool := startsWith ['.', '.', '.'] tokens
    let ended : Reader Unit := do
      marks ['.', '.', '.']
      if !(← atEnd) then marks [',']
    if ← peek dots then ended
    else
      let received ← attempt g.receiver
      if received.isSome && !first then failure
      if received.isNone then
        if ← peek fun t => startsName t && startsWith ['<'] (afterFirst t) then
          keep [.word "_", .mark ':' false]
          g.anyType true
        else
          let _ ← g.pattern
          marks [':']
          if ← peek dots then return ← ended
          g.anyType true
      if ← atEnd then return ()
      marks [',']
      signatureParameters g false fuel

def signature (g : Grammar) (safe : Bool) : Reader Unit := do
  optionalWord "const"
  optionalWord "async"
  if !(← acceptWord "unsafe") && safe then optionalWord "safe"
  convention
  word "fn"
  let _ ← name
  let _ ← g.generics
  inside .paren do
    g.signatureParameters true ((← get).ahead.length + 1)
  g.result true
  g.anyConditions

def function (g : Grammar) (safe : Bool) : Reader Unit := do
  g.signature safe
  if ← acceptMarks [';'] then return ()
  g.block true

/-! ### Parts of declarations -/

/-- A macro call as a declaration. It needs a semicolon unless it ends in braces. -/
def callItem : Reader Unit := do
  let _ ← barePath
  let braced ← peek fun t => startsGroup .brace (afterFirst t)
  macroCall
  if !braced then marks [';']

def assignedValue (g : Grammar) : Reader Unit := do
  if ← acceptMarks ['='] then g.anyExpression

def constantItem (g : Grammar) : Reader Unit := do
  let _ ← nameOr ["_"]
  let _ ← g.generics
  marks [':']
  g.anyType true
  g.assignedValue
  g.anyConditions
  marks [';']

/-- Bounds with plus signs between them until `stop` holds. -/
def boundsUpTo (g : Grammar) (stop : List Token → Bool) : Reader Unit := do
  let _ ← listUpTo ['+'] stop (g.anyBound false true)

/-- The name of a type. The flags tell where its conditions may stand. -/
def typeItem (g : Grammar) (before after : Bool) : Reader Unit := do
  word "type"
  let _ ← name
  let _ ← g.generics
  if ← acceptMarks [':'] then
    g.boundsUpTo fun t => startsWord "where" t || startsWith ['='] t || startsWith [';'] t
  let found ← if before then g.conditions else pure false
  if ← acceptMarks ['='] then g.anyType true
  if after && !found then g.anyConditions
  marks [';']

def startsCall (tokens : List Token) : Bool :=
  startsName tokens || startsOneOf ["self", "super", "crate"] tokens ||
    startsWith [':', ':'] tokens

/-! ### Traits and implementations -/

def traitItem (g : Grammar) : Reader Unit := do
  g.anyAttributes
  let all := (← get).ahead
  visibility
  optionalWord "default"
  let tokens := (← get).ahead
  if startsSignature false tokens then g.function false
  else if startsWord "const" tokens then
    take 1
    g.constantItem
  else if startsWord "type" tokens then g.typeItem false true
  else if all.length = tokens.length && startsCall tokens then callItem
  else failure

def implementationItem (g : Grammar) : Reader Unit := do
  g.anyAttributes
  let all := (← get).ahead
  visibility
  let _ ← accept 1 fun t => startsWord "default" t && !startsWith ['!'] (afterFirst t)
  let tokens := (← get).ahead
  if startsSignature false tokens then g.function false
  else if startsWord "const" tokens then
    take 1
    g.constantItem
  else if startsWord "type" tokens then g.typeItem false true
  else if all.length = tokens.length && startsCall tokens then callItem
  else failure

def foreignItem (g : Grammar) : Reader Unit := do
  g.anyAttributes
  let all := (← get).ahead
  visibility
  let tokens := (← get).ahead
  if startsSignature true tokens then g.function true
  else if startsWord "static" tokens ||
      startsOneOf ["unsafe", "safe"] tokens && startsWord "static" (afterFirst tokens) then
    optional 1 (startsOneOf ["unsafe", "safe"])
    word "static"
    optionalWord "mut"
    let _ ← name
    marks [':']
    g.anyType true
    g.assignedValue
    marks [';']
  else if startsWord "type" tokens then g.typeItem true true
  else if all.length = tokens.length && startsCall tokens then callItem
  else failure

/-- Items of one kind in braces, with attributes of the whole in front. -/
def itemsInside (g : Grammar) (item : Reader Unit) : Reader Unit := do
  let _ ← inside .brace do
    g.innerAttributes
    upToEnd item

/-- A trait, or a name for a sum of bounds. -/
def trait (g : Grammar) : Reader Unit := do
  let special ← peek (startsOneOf ["unsafe", "auto"])
  optionalWord "unsafe"
  optionalWord "auto"
  word "trait"
  let _ ← name
  let _ ← g.generics
  if !special && (← acceptMarks ['=']) then
    g.boundsUpTo fun t => startsWord "where" t || startsWith [';'] t
    g.anyConditions
    marks [';']
  else
    if ← acceptMarks [':'] then
      g.boundsUpTo fun t => startsWord "where" t || startsGroup .brace t
    g.anyConditions
    g.itemsInside g.traitItem

def implementation (g : Grammar) : Reader Unit := do
  optionalWord "default"
  optionalWord "unsafe"
  word "impl"
  if ← peek startsParameters then
    let _ ← g.generics
  if ← peek fun t => startsWord "const" t || startsWith ['?'] t && startsWord "const" t.tail then
    optional 1 (startsWith ['?'])
    take 1
  let negative ← accept 1 fun t => startsWith ['!'] t && !startsGroup .brace t.tail
  g.anyType true
  if ← acceptWord "for" then g.anyType true else if negative then failure
  g.anyConditions
  g.itemsInside g.implementationItem

/-! ### Modules and names -/

def readUseTree (g : Grammar) (rootable : Bool) : Reader Unit := do
  if ← peek fun t => startsName t || startsOneOf ["self", "super", "crate", "try"] t then
    take 1
    if ← acceptMarks [':', ':'] then g.useTree false
    else if ← acceptWord "as" then
      let _ ← nameOr ["_"]
  else if ← acceptMarks ['*'] then return ()
  else
    let _ ← inside .brace (separated do
      let rooted ← if rootable then acceptMarks [':', ':'] else pure false
      g.useTree (rootable && !rooted))

def staticItem (g : Grammar) : Reader Unit := do
  optionalWord "mut"
  let _ ← name
  if ← acceptMarks ['='] then g.anyExpression
  else
    marks [':']
    g.anyType true
    g.assignedValue
  marks [';']

def externItem (g : Grammar) (seen : Bool) : Reader Unit := do
  let marked ← acceptWord "unsafe"
  word "extern"
  if !marked && (← acceptWord "crate") then
    let _ ← nameOr ["self"]
    if ← acceptWord "as" then
      let _ ← nameOr ["_"]
    marks [';']
  else
    if seen then failure
    optional 1 startsText
    g.itemsInside g.foreignItem

def moduleItem (g : Grammar) : Reader Unit := do
  optionalWord "unsafe"
  word "mod"
  let _ ← nameOr ["try"]
  if ← acceptMarks [';'] then return ()
  g.itemsInside do
    g.anyAttributes
    g.item

def macroItem : Reader Unit := do
  word "macro"
  let _ ← name
  optional 1 (startsGroup .paren)
  require 1 (startsGroup .brace)

def declaringCall : Reader Unit := do
  let _ ← barePath
  marks ['!']
  optional 1 fun t => startsName t || startsWord "try" t
  let braced ← peek (startsGroup .brace)
  anyGroup
  if !braced then marks [';']

/-! ### Declarations -/

def readItem (g : Grammar) : Reader Unit := do
  let all := (← get).ahead
  visibility
  let tokens := (← get).ahead
  let second := afterFirst tokens
  let seen := all.length != tokens.length
  if startsSignature false tokens then g.function false
  else if startsWord "extern" tokens ||
      startsWord "unsafe" tokens && startsWord "extern" second then
    g.externItem seen
  else if startsWord "use" tokens then
    take 1
    let rooted ← acceptMarks [':', ':']
    g.useTree (!rooted)
    marks [';']
  else if startsWord "static" tokens then
    take 1
    g.staticItem
  else if startsWord "const" tokens then
    take 1
    g.constantItem
  else if startsOneOf ["unsafe", "auto"] tokens && startsOneOf ["trait", "auto"] second ||
      startsWord "trait" tokens then g.trait
  else if startsWord "mod" tokens || startsWord "unsafe" tokens && startsWord "mod" second then
    g.moduleItem
  else if startsWord "type" tokens then g.typeItem true false
  else if startsWord "struct" tokens then
    take 1
    let _ ← name
    let _ ← g.generics
    let _ ← g.structBody
  else if startsWord "enum" tokens then
    take 1
    let _ ← name
    let _ ← g.generics
    let _ ← g.enumerationBody
  else if startsWord "union" tokens && startsName second then
    take 1
    let _ ← name
    let _ ← g.generics
    let _ ← g.unionBody
  else if startsWord "impl" tokens || startsWord "unsafe" tokens && startsWord "impl" second ||
      startsWord "default" tokens && !startsWith ['!'] second then g.implementation
  else if startsWord "macro" tokens then macroItem
  else if !seen && startsCall tokens then declaringCall
  else failure

end Grammar

end RecordQuery.Derive
