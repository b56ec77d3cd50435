import RecordQuery.Error
import RecordQuery.Filter.Basic

/-! # Sort orders

A sort order is a list of paths with directions. It compares records key by key, and a tie-breaker
with distinct values makes it strict. For a boundary, one operand per key, it also gives the filter
of the records that come after the boundary.
-/

namespace RecordQuery

inductive Direction where
  | asc
  | desc
  deriving DecidableEq

namespace Direction

def name : Direction → String
  | asc => "asc"
  | desc => "desc"

def isAsc : Direction → Bool
  | asc => true
  | desc => false

/-- The direction that a token names, ASCII case and blanks around it aside. -/
def ofToken? (token : String) : Option Direction :=
  match (Text.trimChars token.toList).map Char.toLower with
  | ['a', 's', 'c'] => some asc
  | ['d', 'e', 's', 'c'] => some desc
  | _ => none

def ofToken (token : String) : Except QueryError Direction :=
  match ofToken? token with
  | some dir => .ok dir
  | none => .error (.unknownDirection token)

def apply : Direction → Ordering → Ordering
  | asc, ordering => ordering
  | desc, ordering => ordering.swap

def reversed : Direction → Direction
  | asc => desc
  | desc => asc

end Direction

structure SortKey where
  path : Path
  dir : Direction
  deriving DecidableEq

namespace SortKey

/-- The order of two records in one key. Values that are not comparable are level. -/
def compare (key : SortKey) (a b : Record) : Ordering :=
  match (key.path.read a).compare? (key.path.read b) with
  | some ordering => key.dir.apply ordering
  | none => .eq

def reversed (key : SortKey) : SortKey :=
  ⟨key.path, key.dir.reversed⟩

/-- A clause on the whole path of the key. -/
def clause (key : SortKey) (op : Op) (operand : Operand) : Filter :=
  .clause ⟨some key.path.text, op, operand, false⟩

/-- The key's value comes after the operand in the direction of the key. -/
def beyond (key : SortKey) (operand : Operand) : Filter :=
  key.clause (if key.dir.isAsc then .after else .before) operand

end SortKey

/-- Sort keys with distinct paths, and the path of the tie-breaker if one was given. -/
structure SortOrder where
  keys : List SortKey
  tieBreaker : Option String
  deriving DecidableEq

namespace SortOrder

def empty : SortOrder := ⟨[], none⟩

/-! ### Reading -/

/-- The path and the direction of an entry; the direction is ascending unless a colon leads to
another one. -/
def splitEntry (entry : String) : Except QueryError (String × Direction) :=
  match Text.splitOnce ':' entry with
  | some (path, token) => (Direction.ofToken token).map fun dir => (Text.trim path, dir)
  | none => .ok (Text.trim entry, .asc)

/-- The key of an entry. Only scalars outside collections can be sorted by. -/
def readKey (schema : Schema) (entry : String) : Except QueryError SortKey := do
  let (text, dir) ← splitEntry entry
  match schema.resolve? text with
  | none => .error (.fieldNotFound text)
  | some path =>
    if path.crossesCollection || path.leaf.collection || path.leaf.kind == .object then
      .error (.unsortable text)
    else .ok ⟨path, dir⟩

/-- Adds a key unless its path is already a key. -/
def addKey (keys : List SortKey) (key : SortKey) : List SortKey :=
  if keys.all fun k => k.path.text != key.path.text then keys ++ [key] else keys

/-- Adds the keys of several entries. -/
def readKeys (schema : Schema) (keys : List SortKey) : List String → Except QueryError (List SortKey)
  | [] => .ok keys
  | entry :: entries => do
    let key ← readKey schema entry
    readKeys schema (addKey keys key) entries

/-- The entries between commas that are not blank. -/
def entries (text : String) : List String :=
  ((Text.split ',' text).map Text.trim).filter fun entry => !entry.isEmpty

/-- The order that a text spells. The tie-breaker, if it is not blank, becomes the last key unless
its path is already a key. -/
def compile (schema : Schema) (text : String) (tieBreaker : Option String) :
    Except QueryError SortOrder := do
  let keys ← readKeys schema [] (entries text)
  match (tieBreaker.map Text.trim).filter fun tie => !tie.isEmpty with
  | none => .ok ⟨keys, none⟩
  | some tie =>
    let key ← readKey schema tie
    .ok ⟨addKey keys key, some key.path.text⟩

/-! ### Order -/

def compareKeys (a b : Record) : List SortKey → Ordering
  | [] => .eq
  | key :: keys => (key.compare a b).then (compareKeys a b keys)

/-- The order of two records: the first key that tells them apart decides. -/
def compare (order : SortOrder) (a b : Record) : Ordering :=
  compareKeys a b order.keys

/-- The same keys in the opposite directions. -/
def reversed (order : SortOrder) : SortOrder :=
  ⟨order.keys.map SortKey.reversed, order.tieBreaker⟩

/-- For each key with a boundary value: the keys before it are level and the key itself is
beyond. -/
def keysetBranches (level : List Filter) : List SortKey → List Operand → List Filter
  | key :: keys, operand :: operands =>
    .all (level ++ [key.beyond operand]) ::
      keysetBranches (level ++ [key.clause .eq operand]) keys operands
  | _, _ => []

/-- The filter of the records strictly after a boundary. -/
def keyset (order : SortOrder) (boundary : List Operand) : Filter :=
  .disj (keysetBranches [] order.keys boundary)

/-- The text of the order, which spells it again. -/
def text (order : SortOrder) : String :=
  Text.join "," (order.keys.map fun key => key.path.text ++ ":" ++ key.dir.name)

end SortOrder

end RecordQuery
