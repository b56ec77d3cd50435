import RecordQuery.Derive.Error
import RecordQuery.Derive.Grammar

/-! # Attributes of fields

The list of a `seek` attribute says how its field takes part in queries.
-/

namespace RecordQuery.Derive

/-- What the value of a field becomes in a record. -/
inductive SeekKind where
  | text
  | number
  | timestamp
  | uuid
  | enumeration
  | bool
  | object
  deriving DecidableEq

namespace SeekKind

def ofName? : String → Option SeekKind
  | "String" => some text
  | "string" => some text
  | "Number" => some number
  | "number" => some number
  | "Timestamp" => some timestamp
  | "timestamp" => some timestamp
  | "Uuid" => some uuid
  | "uuid" => some uuid
  | "Enum" => some enumeration
  | "enum" => some enumeration
  | "enumeration" => some enumeration
  | "Bool" => some bool
  | "bool" => some bool
  | "boolean" => some bool
  | "Object" => some object
  | "object" => some object
  | "nested" => some object
  | _ => none

def ofName (name : String) : Except DeriveError SeekKind :=
  match ofName? name with
  | some kind => .ok kind
  | none => .error (.unknownKind name)

end SeekKind

/-- How a field takes part in queries. -/
structure SeekOptions where
  kind : Option SeekKind := none
  skip : Bool := false
  /-- The name in queries, if it differs from the field's. -/
  rename : Option String := none

namespace SeekOptions

/-- Applies one item of the list; later items win. -/
def add (options : SeekOptions) : Attribute → Except DeriveError SeekOptions
  | .flag name => match name.single? with
    | some "skip" => .ok { options with skip := true }
    | some word => do
      let kind ← SeekKind.ofName word
      .ok { options with kind := some kind }
    | none => .error .kindExpected
  | .valued _ none => .error .textExpected
  | .valued name (some value) => match name.single? with
    | some "rename" => .ok { options with rename := some value }
    | some "ty" => do
      let kind ← SeekKind.ofName value
      .ok { options with kind := some kind }
    | _ => .error .unknownAttribute
  | .nested _ _ => .error .nestedList

def addAll (options : SeekOptions) : List Attribute → Except DeriveError SeekOptions
  | [] => .ok options
  | item :: items => do
    let options ← options.add item
    options.addAll items

/-- The options in a list. Its form is checked before its items are, and whether all of it was read
afterwards. -/
def ofTokens (tokens : List Token) : Except DeriveError SeekOptions :=
  match (Reader.separated (Grammar.forTokens tokens).oneAttribute).run { ahead := tokens } with
  | some (items, reading) => do
    let options ← addAll {} items
    if reading.unread then .error .malformedAttribute else .ok options
  | none => .error .malformedAttribute

/-- The options of the first `seek` attribute, if there is one. -/
def ofAttributes? (attributes : List Attribute) : Except DeriveError (Option SeekOptions) :=
  match attributes.find? fun a => a.name.single? == some "seek" with
  | none => .ok none
  | some (.nested _ items) => (ofTokens items).map some
  | some _ => .error .malformedAttribute

end SeekOptions

end RecordQuery.Derive
