import RecordQuery.Derive.Grammar.Basic

/-! # Attributes in source text

An attribute is a name, a name with a value, or a name with a list in brackets. It stands in
brackets behind a hash.
-/

namespace RecordQuery.Derive

structure AttributeName where
  /-- The name begins with a separator. -/
  rooted : Bool
  names : List String
  deriving DecidableEq

namespace AttributeName

/-- The word, if the name is nothing else. -/
def single? (name : AttributeName) : Option String :=
  match name.rooted, name.names with
  | false, [word] => some word
  | _, _ => none

end AttributeName

inductive Attribute where
  | flag (name : AttributeName)
  /-- A name with a value, which is a text or, as `none`, another expression. -/
  | valued (name : AttributeName) (value : Option String)
  | nested (name : AttributeName) (items : List Token)

namespace Attribute

def name : Attribute → AttributeName
  | flag name => name
  | valued name _ => name
  | nested name _ => name

end Attribute

/-- The words with a meaning of their own that may stand in a path. -/
def pathWords : List String := ["super", "self", "Self", "crate"]

namespace Reader

def bareNames : Nat → Reader (List String)
  | 0 => failure
  | fuel + 1 => do
    let first ← nameOr pathWords
    if ← acceptMarks [':', ':'] then return first :: (← bareNames fuel) else return [first]

def barePath : Reader AttributeName := do
  let rooted ← acceptMarks [':', ':']
  return ⟨rooted, ← bareNames ((← get).ahead.length + 1)⟩

def macroCall : Reader Unit := do
  marks ['!']
  anyGroup

/-- Who may see what is declared. A group behind `pub` is a part of it only if it looks like one. -/
def visibility : Reader Unit := do
  if ← acceptWord "pub" then
    match (← get).ahead with
    | .group .paren [.word word] :: _ =>
      if ["crate", "self", "super"].contains word then take 1
      else if word = "in" then failure
    | .group .paren (.word "in" :: _) :: _ => inside .paren do
      word "in"
      let _ ← barePath
    | _ => return ()

end Reader

namespace Grammar

open Reader

/-- A value: a text that stands alone, or another expression. -/
def attributeValue (g : Grammar) : Reader (Option String) := do
  if ← peek fun t => startsWith ['#'] t && startsGroup .bracket (afterFirst t) then failure
  match ← g.expression true with
  | .text value => return some value
  | _ => return Option.none

def oneAttribute (g : Grammar) : Reader Attribute := do
  let name ← if ← acceptWord "unsafe" then pure ⟨false, ["unsafe"]⟩ else barePath
  match (← get).ahead with
  | .group _ items :: _ =>
    take 1
    return .nested name items
  | _ =>
    if ← acceptMarks ['='] then return .valued name (← g.attributeValue) else return .flag name

def attributes (g : Grammar) : Reader (List Attribute) :=
  whileSeen (startsWith ['#']) do
    take 1
    inside .bracket g.oneAttribute

/-- The attributes of what stands around them. -/
def innerAttributes (g : Grammar) : Reader Unit := do
  let _ ← whileSeen (fun t => startsWith ['#'] t && startsWith ['!'] (afterFirst t)) do
    take 2
    inside .bracket g.oneAttribute

def anyAttributes (g : Grammar) : Reader Unit := do
  let _ ← g.attributes

end Grammar

end RecordQuery.Derive
