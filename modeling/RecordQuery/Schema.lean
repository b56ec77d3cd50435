import RecordQuery.Text.Ascii
import RecordQuery.Text.Blank
import RecordQuery.Text.Split
import RecordQuery.Value

/-! # Schemas and paths

A schema describes the fields of a record type. Record types may refer to one another in cycles, so
a schema carries all types and a field names its nested type by position. A path is a chain of
fields that ends in a leaf.
-/

namespace RecordQuery

inductive Kind where
  | text
  | number
  | timestamp
  | uuid
  | enumeration (variants : List String)
  | bool
  | object
  deriving DecidableEq

namespace Kind

def name : Kind → String
  | text => "string"
  | number => "number"
  | timestamp => "timestamp"
  | uuid => "uuid"
  | enumeration _ => "enum"
  | bool => "bool"
  | object => "object"

def isOrdinal : Kind → Bool
  | bool => false
  | object => false
  | _ => true

end Kind

/-- A field that can be queried. A collection holds any number of elements of its kind, and
`nested` is the position of the type of a nested record or of each element. -/
structure Field where
  name : String
  kind : Kind
  nullable : Bool := false
  collection : Bool := false
  nested : Option Nat := none
  deriving DecidableEq

structure RecordType where
  name : String
  fields : List Field
  deriving DecidableEq

/-- A record type among the types it may refer to. -/
structure Schema where
  types : List RecordType
  type : RecordType
  deriving DecidableEq

/-- A chain of fields, the leaf last. -/
structure Path where
  before : List Field
  leaf : Field
  deriving DecidableEq

namespace Schema

/-- The first field with a name, ASCII case aside. -/
def field? (schema : Schema) (name : String) : Option Field :=
  schema.type.fields.find? fun f => Text.sameName f.name name

/-- The schema of the nested record of a field, or of its elements. -/
def nested? (schema : Schema) (f : Field) : Option Schema :=
  f.nested.bind fun i => schema.types[i]?.map fun type => { schema with type := type }

/-- Follows a chain of field names through nested types. -/
def follow? (schema : Schema) : List String → Option Path
  | [] => none
  | [name] => (schema.field? name).map fun f => ⟨[], f⟩
  | name :: names => do
    let f ← schema.field? name
    let inner ← schema.nested? f
    let path ← inner.follow? names
    some ⟨f :: path.before, path.leaf⟩

/-- The path that a dotted text spells; blanks around its segments do not matter. -/
def resolve? (schema : Schema) (path : String) : Option Path :=
  schema.follow? ((Text.split '.' path).map Text.trim)

end Schema

namespace Path

def hops (p : Path) : List Field :=
  p.before ++ [p.leaf]

/-- The dotted path with the declared names. -/
def text (p : Path) : String :=
  Text.join "." (p.hops.map Field.name)

/-- A field before the leaf is a collection. -/
def crossesCollection (p : Path) : Bool :=
  p.before.any Field.collection

/-- Reads through nested records, and through collections to a list of what their elements hold. -/
def readFrom (leaf : Field) : List Field → Record → Value
  | [], r => r.read leaf.name
  | hop :: hops, r => match r.read hop.name with
    | .record inner => readFrom leaf hops inner
    | .list items => .list ((items.filterMap Value.record?).map (readFrom leaf hops))
    | _ => .absent

def read (p : Path) (r : Record) : Value :=
  readFrom p.leaf p.before r

end Path

end RecordQuery
