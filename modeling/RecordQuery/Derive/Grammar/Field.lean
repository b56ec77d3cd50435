import RecordQuery.Derive.Grammar.Type

/-! # Fields in source text

The bodies of structs, enumerations and unions.
-/

namespace RecordQuery.Derive

structure DeclaredField where
  attributes : List Attribute
  name : String
  type : TypeExpr

inductive Body where
  | named (fields : List DeclaredField)
  | unnamed
  | other

namespace Grammar

open Reader

/-- A field without a name of its own, whose type is declared in place. -/
def startsInline (tokens : List Token) : Bool :=
  startsWord "struct" tokens || startsWord "union" tokens && startsGroup .brace (afterFirst tokens)

mutual

def namedField (g : Grammar) : Nat → Reader DeclaredField
  | 0 => failure
  | fuel + 1 => do
    let attributes ← g.attributes
    visibility
    let unnamed ← peek (startsWord "_")
    let name ← nameOr ["_"]
    marks [':']
    if unnamed && (← peek startsInline) then
      let (_, tokens) ← captured (asWritten do
        take 1
        let _ ← namedFields g fuel)
      return ⟨attributes, name, .other tokens⟩
    else
      let (type, _) ← g.type true
      return ⟨attributes, name, type⟩

def namedFields (g : Grammar) : Nat → Reader (List DeclaredField)
  | 0 => failure
  | fuel + 1 => inside .brace (separated (namedField g fuel))

end

/-- Enough steps for fields that are declared in place. -/
def anyNamedFields (g : Grammar) : Reader (List DeclaredField) := do
  g.namedFields (2 * (Token.listSize (← get).ahead + 2))

def unnamedField (g : Grammar) : Reader Unit := do
  g.anyAttributes
  visibility
  g.anyType true

def unnamedFields (g : Grammar) : Reader Unit := do
  let _ ← inside .paren (separated g.unnamedField)

def structBody (g : Grammar) : Reader Body := do
  let conditioned ← g.conditions
  if !conditioned && (← peek (startsGroup .paren)) then
    g.unnamedFields
    g.anyConditions
    marks [';']
    return .unnamed
  else if ← peek (startsGroup .brace) then return .named (← g.anyNamedFields)
  else
    marks [';']
    return .unnamed

def variant (g : Grammar) : Reader Unit := do
  g.anyAttributes
  visibility
  let _ ← name
  if ← peek (startsGroup .brace) then
    let _ ← g.anyNamedFields
  else if ← peek (startsGroup .paren) then g.unnamedFields
  if ← acceptMarks ['='] then g.anyExpression

def enumerationBody (g : Grammar) : Reader Body := do
  g.anyConditions
  let _ ← inside .brace (separated g.variant)
  return .other

def unionBody (g : Grammar) : Reader Body := do
  g.anyConditions
  let _ ← g.anyNamedFields
  return .other

end Grammar

end RecordQuery.Derive
