import RecordQuery.Clause
import RecordQuery.Error
import RecordQuery.Json.Basic
import RecordQuery.Time.Reader

/-! # Coercion

A JSON value of a request becomes an operand of the kind of the field that it is compared with.
Null stands for an absent value where the field is nullable, and for the identifier of all zeros
where the field holds identifiers and is not nullable.
-/

namespace RecordQuery

namespace Coercion

/-- The position of a variant by its name, ASCII case and blanks around it aside. -/
def variantIndex? (variants : List String) (name : String) : Option Nat :=
  variants.findIdx? fun variant => Text.sameName variant (Text.trim name)

/-- A position among the variants, or any number when the variants are not known. -/
def enumeration? (variants : List String) (index : Nat) : Option Operand :=
  if index < 0x100000000 ∧ (variants.isEmpty ∨ index < variants.length) then
    some (.enumeration (UInt32.ofNat index))
  else none

def bool? : List Char → Option Bool
  | ['t', 'r', 'u', 'e'] => some true
  | ['1'] => some true
  | ['f', 'a', 'l', 's', 'e'] => some false
  | ['0'] => some false
  | _ => none

def ofText? (kind : Kind) (s : String) : Option Operand :=
  let trimmed := Text.trimChars s.toList
  match kind with
  | .text => some (.text s)
  | .number => (Number.ofChars? trimmed).map .number
  | .timestamp => (Timestamp.ofChars? trimmed).map .timestamp
  | .uuid => if trimmed.isEmpty then some (.uuid .nil) else (Uuid.ofChars? trimmed).map .uuid
  | .enumeration variants =>
    match variantIndex? variants s with
    | some index => enumeration? variants index
    | none => (Numeral.unsignedWithin? 32 trimmed).bind (enumeration? variants)
  | .bool => (bool? (trimmed.map Char.toLower)).map .bool
  | .object => none

def ofNumeric? (kind : Kind) (n : Json.Numeric) : Option Operand :=
  match kind with
  | .text => some (.text (String.ofList n.chars))
  | .number => some (.number (.ofJson n))
  | .timestamp => n.int64?.map fun n => .timestamp (.ofEpoch n)
  | .enumeration variants => n.uint64?.bind fun n => enumeration? variants n.toNat
  | .bool => match n.uint64? with
    | some 1 => some (.bool true)
    | some 0 => some (.bool false)
    | _ => none
  | .uuid => none
  | .object => none

def ofNull? (kind : Kind) (nullable : Bool) : Option Operand :=
  if nullable then some .null
  else if kind = .uuid then some (.uuid .nil)
  else none

/-- The operand that a value stands for in a comparison with a field, if any. -/
def operand? (kind : Kind) (nullable : Bool) : Json → Option Operand
  | .null => ofNull? kind nullable
  | .text s => ofText? kind s
  | .number n => ofNumeric? kind n
  | .bool b => match kind with
    | .text => some (.text (if b then "true" else "false"))
    | .bool => some (.bool b)
    | _ => none
  | .array _ => none
  | .object _ => none

end Coercion

/-- The operand of a value for a field, or an error that names both types. -/
def coerce (kind : Kind) (nullable : Bool) (value : Json) : Except QueryError Operand :=
  match Coercion.operand? kind nullable value with
  | some operand => .ok operand
  | none => .error (.coercion value.typeName kind.name)

def coerceAll (kind : Kind) (nullable : Bool) : List Json → Except QueryError (List Operand)
  | [] => .ok []
  | value :: values => do
    let first ← coerce kind nullable value
    let rest ← coerceAll kind nullable values
    .ok (first :: rest)

end RecordQuery
