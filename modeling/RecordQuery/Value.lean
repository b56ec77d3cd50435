import RecordQuery.Number.Basic
import RecordQuery.Text.Split
import RecordQuery.Time.Timestamp
import RecordQuery.Uuid

/-! # Values of records

A record has named fields. A field holds a scalar, a nested record, a list or nothing, and a field
that the record lacks reads as absent.
-/

namespace RecordQuery

inductive Value where
  | text (s : String)
  | number (n : Number)
  | timestamp (t : Timestamp)
  | uuid (u : Uuid)
  | enumeration (index : UInt32)
  | bool (b : Bool)
  | record (fields : List (String × Value))
  | list (items : List Value)
  | absent
  deriving Inhabited

abbrev Record := List (String × Value)

namespace Value

def isAbsent : Value → Bool
  | absent => true
  | _ => false

def typeName : Value → String
  | text _ => "string"
  | number _ => "number"
  | timestamp _ => "timestamp"
  | uuid _ => "uuid"
  | enumeration _ => "enum"
  | bool _ => "bool"
  | record _ => "object"
  | list _ => "list"
  | absent => "null"

def text? : Value → Option String
  | text s => some s
  | _ => none

def number? : Value → Option Number
  | number n => some n
  | _ => none

def timestamp? : Value → Option Timestamp
  | timestamp t => some t
  | _ => none

def uuid? : Value → Option Uuid
  | uuid u => some u
  | _ => none

def enumeration? : Value → Option UInt32
  | enumeration index => some index
  | _ => none

def bool? : Value → Option Bool
  | bool b => some b
  | _ => none

def record? : Value → Option Record
  | record fields => some fields
  | _ => none

def list? : Value → Option (List Value)
  | list items => some items
  | _ => none

/-- The sort order of two values. Texts are ordered by code points, and an absent value comes after
every other one. Values of different types, records and lists are not comparable. -/
def compare? : Value → Value → Option Ordering
  | text a, text b => some (compare a b)
  | number a, number b => a.compare? b
  | timestamp a, timestamp b => some (a.compare b)
  | uuid a, uuid b => some (a.compare b)
  | enumeration a, enumeration b => some (compare a.toNat b.toNat)
  | bool a, bool b => some (compare a.toNat b.toNat)
  | absent, absent => some .eq
  | absent, _ => some .gt
  | _, absent => some .lt
  | _, _ => none

mutual

/-- Equality of two values. A record equals only itself: `samePlace` tells whether both values were
read at the same place. -/
def equal (samePlace : Bool) : Value → Value → Bool
  | text a, text b => a == b
  | number a, number b => a.equal b
  | timestamp a, timestamp b => a == b
  | uuid a, uuid b => a == b
  | enumeration a, enumeration b => a == b
  | bool a, bool b => a == b
  | record _, record _ => samePlace
  | list a, list b => equalItems samePlace a b
  | absent, absent => true
  | _, _ => false

def equalItems (samePlace : Bool) : List Value → List Value → Bool
  | [], [] => true
  | a :: as, b :: bs => equal samePlace a b && equalItems samePlace as bs
  | _, _ => false

end

end Value

namespace Record

/-- The value of a field; names match exactly. -/
def read (r : Record) (name : String) : Value :=
  (List.lookup name r).getD .absent

/-- The value at a chain of field names. Only nested records lead on. -/
def readChain (r : Record) : List String → Value
  | [] => .absent
  | [name] => r.read name
  | name :: names => match r.read name with
    | .record inner => readChain inner names
    | _ => .absent

def readPath (r : Record) (path : String) : Value :=
  r.readChain (Text.split '.' path)

end Record

end RecordQuery
