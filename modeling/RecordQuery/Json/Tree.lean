import RecordQuery.Json.Basic

/-! # JSON texts as they are spelled

A tree keeps what a JSON value forgets: repeated keys and the order of members, and the places
where a number is out of range or an escape names half of a surrogate pair. Such a place is an
error only when the value there is asked for.
-/

namespace RecordQuery.Json

inductive Tree where
  | null
  | bool (b : Bool)
  | number (value : Option Numeric)
  | text (value : Option String)
  | array (items : List Tree)
  | object (members : List (Option String × Tree))

/-- The greatest depth to which arrays and objects may be nested. -/
abbrev depthLimit : Nat := 127

mutual

/-- The value of a tree whose nesting stays within a depth. -/
def Tree.toJson? (depth : Nat) : Tree → Option Json
  | .null => some .null
  | .bool b => some (.bool b)
  | .number value => value.map .number
  | .text value => value.map .text
  | .array items => match depth with
    | 0 => none
    | depth + 1 => (Tree.toItems? depth items).map .array
  | .object members => match depth with
    | 0 => none
    | depth + 1 => (Tree.toMembers? depth members).map Json.ofMembers

def Tree.toItems? (depth : Nat) : List Tree → Option (List Json)
  | [] => some []
  | item :: items => do
    let first ← item.toJson? depth
    let rest ← Tree.toItems? depth items
    some (first :: rest)

def Tree.toMembers? (depth : Nat) : List (Option String × Tree) → Option (List (String × Json))
  | [] => some []
  | (key, value) :: members => do
    let key ← key
    let first ← value.toJson? depth
    let rest ← Tree.toMembers? depth members
    some ((key, first) :: rest)

end

mutual

def toTree : Json → Tree
  | .null => .null
  | .bool b => .bool b
  | .number n => .number (some n)
  | .text s => .text (some s)
  | .array items => .array (itemTrees items)
  | .object members => .object (memberTrees members)

def itemTrees : List Json → List Tree
  | [] => []
  | item :: items => item.toTree :: itemTrees items

def memberTrees : List (String × Json) → List (Option String × Tree)
  | [] => []
  | (key, value) :: members => (some key, value.toTree) :: memberTrees members

end

end RecordQuery.Json
