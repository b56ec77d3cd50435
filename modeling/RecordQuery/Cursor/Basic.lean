import RecordQuery.Coercion
import RecordQuery.Json.Writer
import RecordQuery.SortOrder

/-! # Cursors

A cursor holds the values of the sort keys of one record as JSON values by the paths of the keys.
It is read against a sort order to the operands of a boundary.
-/

namespace RecordQuery

/-- JSON values by path, the paths ascending. -/
structure Cursor where
  values : List (String × Json)

namespace Cursor

/-- The JSON value of a key. A variant is written by its name where it has one, and a value that is
no scalar as null. -/
def ofValue (kind : Kind) : Value → Json
  | .text s => .text s
  | .number n => n.toJson
  | .timestamp t => .text t.text
  | .uuid u => .text u.text
  | .enumeration index =>
    match kind with
    | .enumeration variants => match variants[index.toNat]? with
      | some variant => .text variant
      | none => .number (.ofUInt32 index)
    | _ => .number (.ofUInt32 index)
  | .bool b => .bool b
  | .record _ => .null
  | .list _ => .null
  | .absent => .null

def capture (r : Record) (order : SortOrder) : Cursor :=
  ⟨Keyed.ofList (order.keys.map fun key =>
    (key.path.text, ofValue key.path.leaf.kind (key.path.read r)))⟩

def get? (cursor : Cursor) (path : String) : Option Json :=
  Keyed.get? path cursor.values

def toJson (cursor : Cursor) : Json :=
  .object cursor.values

def ofJson? : Json → Option Cursor
  | .object members => some ⟨members⟩
  | _ => none

/-- The operand of one key; null is always allowed. -/
def operand (cursor : Cursor) (key : SortKey) : Except QueryError Operand :=
  let path := key.path.text
  match cursor.get? path with
  | none => .error (.malformedCursor (.keyMissing path))
  | some value => match coerce key.path.leaf.kind true value with
    | .ok operand => .ok operand
    | .error cause => .error (.malformedCursor (.valueMismatch path cause))

def operands (cursor : Cursor) : List SortKey → Except QueryError (List Operand)
  | [] => .ok []
  | key :: keys => do
    let first ← cursor.operand key
    let rest ← cursor.operands keys
    .ok (first :: rest)

/-- The operands of a boundary, in key order. The cursor has to name exactly the keys. -/
def boundary (cursor : Cursor) (order : SortOrder) : Except QueryError (List Operand) :=
  if cursor.values.length = order.keys.length then cursor.operands order.keys
  else .error (.malformedCursor (.keyCount cursor.values.length order.keys.length))

end Cursor

end RecordQuery
