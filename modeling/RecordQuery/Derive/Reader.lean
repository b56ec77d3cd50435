import RecordQuery.Derive.Token

/-! # Reading tokens

A reader takes tokens off the front of what is left or fails. It also keeps the tokens that it has
taken, for code is generated from them. Some of them are put into another order on the way, so the
tokens kept need not be those taken.
-/

namespace RecordQuery.Derive

/-! ### Looking ahead -/

/-- The tokens begin with a sequence of marks without gaps. -/
def startsWith : List Char → List Token → Bool
  | [], _ => true
  | [c], .mark d _ :: _ => c == d
  | c :: cs, .mark d true :: tokens => c == d && startsWith cs tokens
  | _, _ => false

def startsWord (name : String) : List Token → Bool
  | .word word :: _ => word == name
  | _ => false

def startsOneOf (names : List String) : List Token → Bool
  | .word word :: _ => names.contains word
  | _ => false

def startsAnyWord : List Token → Bool
  | .word _ :: _ => true
  | _ => false

/-- The words that cannot name anything. -/
def reservedWords : List String :=
  ["_", "abstract", "as", "async", "await", "become", "box", "break", "const", "continue", "crate",
    "do", "dyn", "else", "enum", "extern", "false", "final", "fn", "for", "if", "impl", "in", "let",
    "loop", "macro", "match", "mod", "move", "mut", "override", "priv", "pub", "ref", "return",
    "Self", "self", "static", "struct", "super", "trait", "true", "try", "type", "typeof", "unsafe",
    "unsized", "use", "virtual", "where", "while", "yield"]

def startsName : List Token → Bool
  | .word word :: _ => !reservedWords.contains word
  | _ => false

def startsGroup (delimiter : Delimiter) : List Token → Bool
  | .group d _ :: _ => d == delimiter
  | _ => false

def startsAnyGroup : List Token → Bool
  | .group _ _ :: _ => true
  | _ => false

def startsLifetime : List Token → Bool
  | .mark '\'' _ :: .word _ :: _ => true
  | _ => false

/-- A literal. A number may have a sign. -/
def startsLiteral : List Token → Bool
  | .literal _ _ :: _ => true
  | .word word :: _ => word == "true" || word == "false"
  | .mark '-' _ :: .literal _ value :: _ => value.isNumber
  | _ => false

def startsText : List Token → Bool
  | .literal _ (.text _) :: _ => true
  | _ => false

/-- What stands behind the first token; a lifetime counts as one. -/
def afterFirst : List Token → List Token
  | .mark '\'' _ :: .word _ :: rest => rest
  | _ :: rest => rest
  | [] => []

/-! ### Readers -/

/-- The tokens ahead, and those kept with the newest first. -/
structure Reading where
  ahead : List Token
  kept : List Token := []
  /-- A group was left before its end. Reading goes on behind it, but not everything was read. -/
  unread : Bool := false

abbrev Reader := StateT Reading Option

namespace Reader

variable {α : Type}

def peek (test : List Token → Bool) : Reader Bool := do
  return test (← get).ahead

def atEnd : Reader Bool :=
  peek List.isEmpty

/-- Keeps tokens that were not ahead. -/
def keep (tokens : List Token) : Reader Unit :=
  modify fun r => { r with kept := tokens.reverse ++ r.kept }

def take (n : Nat) : Reader Unit :=
  modify fun r => { r with ahead := r.ahead.drop n, kept := (r.ahead.take n).reverse ++ r.kept }

/-- Takes tokens that pass a test, or fails. -/
def require (n : Nat) (test : List Token → Bool) : Reader Unit := do
  if ← peek test then take n else failure

/-- Takes tokens if they pass a test, and tells whether they do. -/
def accept (n : Nat) (test : List Token → Bool) : Reader Bool := do
  if ← peek test then
    take n
    return true
  else return false

def optional (n : Nat) (test : List Token → Bool) : Reader Unit := do
  let _ ← accept n test

/-- Reads without keeping anything. -/
def dropped (read : Reader α) : Reader α := do
  let kept := (← get).kept
  let x ← read
  modify fun r => { r with kept }
  return x

/-- Reads and returns what would be kept. -/
def captured (read : Reader α) : Reader (α × List Token) := do
  let kept := (← get).kept
  modify fun r => { r with kept := [] }
  let x ← read
  let tokens := (← get).kept.reverse
  modify fun r => { r with kept }
  return (x, tokens)

/-- Reads and keeps the tokens as they stand in the source. -/
def asWritten (read : Reader α) : Reader α := do
  let before := (← get).ahead
  let x ← dropped read
  keep (before.take (before.length - (← get).ahead.length))
  return x

def attempt (read : Reader α) : Reader (Option α) := fun r => match read.run r with
  | some (x, r) => some (some x, r)
  | none => some (none, r)

/-! ### Single tokens -/

def marks (cs : List Char) : Reader Unit :=
  require cs.length (startsWith cs)

def acceptMarks (cs : List Char) : Reader Bool :=
  accept cs.length (startsWith cs)

def word (name : String) : Reader Unit :=
  require 1 (startsWord name)

def acceptWord (name : String) : Reader Bool :=
  accept 1 (startsWord name)

def optionalWord (name : String) : Reader Unit :=
  optional 1 (startsWord name)

def anyWord : Reader String := do
  match (← get).ahead with
  | .word word :: _ => take 1; return word
  | _ => failure

/-- A word that can name something. -/
def name : Reader String := do
  if ← peek startsName then anyWord else failure

/-- A name, or one of the words that stand for none. -/
def nameOr (words : List String) : Reader String := do
  if ← peek (startsOneOf words) then anyWord else name

def lifetime : Reader Unit :=
  require 2 startsLifetime

def literal : Reader Unit := do
  if ← peek (startsWith ['-']) then require 2 startsLiteral else require 1 startsLiteral

def anyGroup : Reader Unit :=
  require 1 startsAnyGroup

/-! ### Sequences -/

/-- Reads the tokens of a group. Those left over are noted. -/
def inside (delimiter : Delimiter) (read : Reader α) : Reader α := do
  match (← get).ahead with
  | .group d inner :: rest =>
    if d = delimiter then
      match read.run { ahead := inner } with
      | some (x, ⟨left, kept, unread⟩) =>
        modify fun r => ⟨rest, .group d kept.reverse :: r.kept, r.unread || unread || !left.isEmpty⟩
        return x
      | none => failure
    else failure
  | _ => failure

def leave : Reader Unit :=
  modify fun r => { r with ahead := [], unread := r.unread || !r.ahead.isEmpty }

/-- Items with separators between them until `stop` holds. The last one may have a separator. -/
def listUpTo (separator : List Char) (stop : List Token → Bool) (item : Reader α) :
    Reader (List α) := do
  go ((← get).ahead.length + 1)
where
  go : Nat → Reader (List α)
    | 0 => failure
    | fuel + 1 => do
      if ← peek stop then return []
      let first ← item
      if ← peek stop then return [first]
      marks separator
      return first :: (← go fuel)

def separated (item : Reader α) : Reader (List α) :=
  listUpTo [','] List.isEmpty item

/-- Items with separators between them until `stop` holds or no separator comes. -/
def chain (separator : List Char) (stop : List Token → Bool) (item : Reader α) :
    Reader (List α) := do
  go ((← get).ahead.length + 1)
where
  go : Nat → Reader (List α)
    | 0 => failure
    | fuel + 1 => do
      if ← peek stop then return []
      let first ← item
      if ← acceptMarks separator then return first :: (← go fuel) else return [first]

/-- Items as long as they begin with what passes a test. -/
def whileSeen (test : List Token → Bool) (item : Reader α) : Reader (List α) := do
  go ((← get).ahead.length + 1)
where
  go : Nat → Reader (List α)
    | 0 => failure
    | fuel + 1 => do
      if ← peek test then
        let first ← item
        return first :: (← go fuel)
      else return []

def upToEnd (item : Reader α) : Reader (List α) :=
  whileSeen (fun tokens => !tokens.isEmpty) item

end Reader

end RecordQuery.Derive
