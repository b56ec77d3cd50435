import RecordQuery.Operator
import RecordQuery.Pattern.Basic
import RecordQuery.Text.LowerCase
import RecordQuery.Text.Quoted

/-! # Clauses

A clause compares one field of a record, or an element of a collection, with an operand.
-/

namespace RecordQuery

/-- What a clause compares with. -/
inductive Operand where
  | text (s : String)
  | number (n : Number)
  | timestamp (t : Timestamp)
  | uuid (u : Uuid)
  | enumeration (index : UInt32)
  | bool (b : Bool)
  | null
  /-- The candidates of a membership. -/
  | set (items : List Operand)
  | pattern (p : Pattern)
  deriving Inhabited

namespace Operand

/-- The operand of a scalar. Any other value stands for null. -/
def ofValue : Value → Operand
  | .text s => text s
  | .number n => number n
  | .timestamp t => timestamp t
  | .uuid u => uuid u
  | .enumeration index => enumeration index
  | .bool b => bool b
  | _ => null

def isNull : Operand → Bool
  | null => true
  | _ => false

mutual

/-- Equality of operands; patterns are equal when they are spelled alike. -/
def equal : Operand → Operand → Bool
  | .text a, .text b => a == b
  | .number a, .number b => a.equal b
  | .timestamp a, .timestamp b => a == b
  | .uuid a, .uuid b => a == b
  | .enumeration a, .enumeration b => a == b
  | .bool a, .bool b => a == b
  | .null, .null => true
  | .set a, .set b => equalItems a b
  | .pattern a, .pattern b => a.source == b.source
  | _, _ => false

def equalItems : List Operand → List Operand → Bool
  | [], [] => true
  | a :: as, b :: bs => equal a b && equalItems as bs
  | _, _ => false

end

mutual

def describe : Operand → String
  | .text s => Text.quote s
  | .number n => n.text
  | .timestamp t => t.text
  | .uuid u => u.text
  | .enumeration index => "#" ++ String.ofList (Numeral.ofNat index.toNat)
  | .bool true => "true"
  | .bool false => "false"
  | .null => "null"
  | .set items => "[" ++ describeItems items ++ "]"
  | .pattern p => "/" ++ p.source ++ "/"

def describeItems : List Operand → String
  | [] => ""
  | [item] => describe item
  | item :: items => describe item ++ ", " ++ describeItems items

end

end Operand

namespace Value

/-- The order of a field's value and an operand of the same type. -/
def compareTo? : Value → Operand → Option Ordering
  | .text a, .text b => some (compare a b)
  | .number a, .number b => a.compare? b
  | .timestamp a, .timestamp b => some (a.compare b)
  | .uuid a, .uuid b => some (a.compare b)
  | .enumeration a, .enumeration b => some (compare a.toNat b.toNat)
  | .bool a, .bool b => some (compare a.toNat b.toNat)
  | _, _ => none

/-- The sort order of a field's value and an operand: absent values come after every operand but
null, with which they are level. -/
def sortOrder? (value : Value) : Operand → Option Ordering
  | .null => value.compare? .absent
  | operand => if value.isAbsent then some .gt else value.compareTo? operand

end Value

/-- A single comparison. Without a field it tests the element of a collection itself. -/
structure Clause where
  field : Option String
  op : Op
  operand : Operand
  ignoreCase : Bool := false

namespace Clause

/-- The text contains the part as one stretch. -/
def containsPart (part : List Char) : List Char → Bool
  | [] => part.isEmpty
  | c :: cs => part.isPrefixOf (c :: cs) || containsPart part cs

/-- The tests of texts that look for a part. -/
def matchesPart (op : Op) (text part : List Char) : Bool :=
  match op with
  | .startsWith => part.isPrefixOf text
  | .endsWith => part.isSuffixOf text
  | .contains => containsPart part text
  | _ => false

/-- Equality with an operand: null equals what is absent, and texts may ignore case. -/
def equals (ignoreCase : Bool) (operand : Operand) (value : Value) : Bool :=
  match operand, value with
  | .null, .absent => true
  | .text a, .text b =>
    if ignoreCase then Text.lower a == Text.lower b else compare b a == .eq
  | operand, value => value.compareTo? operand == some .eq

def holds (clause : Clause) (value : Value) : Bool :=
  match clause.op with
  | .eq => equals clause.ignoreCase clause.operand value
  | .ne => match clause.operand with
    | .null => !value.isAbsent
    | operand => !equals clause.ignoreCase operand value
  | .isIn => match clause.operand with
    | .set items => items.any fun item => equals clause.ignoreCase item value
    | operand => equals clause.ignoreCase operand value
  | .gt | .gte | .lt | .lte =>
    if value.isAbsent then false
    else match value.compareTo? clause.operand with
      | some ordering => clause.op.accepts ordering
      | none => false
  | .before | .after => match value.sortOrder? clause.operand with
    | some ordering => clause.op.accepts ordering
    | none => false
  | .contains | .startsWith | .endsWith => match value, clause.operand with
    | .text s, .text part =>
      if clause.ignoreCase then
        matchesPart clause.op (Text.lowerChars s.toList) (Text.lowerChars part.toList)
      else matchesPart clause.op s.toList part.toList
    | _, _ => false
  | .regex => match value, clause.operand with
    | .text s, .pattern p => p.matchesText s
    | _, _ => false

def describe (clause : Clause) : String :=
  clause.field.getD "@" ++ " $" ++ clause.op.name ++ (if clause.ignoreCase then "i" else "") ++
    " " ++ clause.operand.describe

end Clause

end RecordQuery
