import RecordQuery.Derive.ConstantName
import RecordQuery.Derive.Declaration
import RecordQuery.Text.Quoted
import RecordQuery.Text.Split

/-! # Derived schemas

From the declaration of a struct, a schema is derived with one entry for each field that takes part
in queries. An entry gives the constant for the field's name, the definition of the field in the
schema and the arm of the accessor that reads the field from a record.
-/

namespace RecordQuery.Derive

structure Entry where
  /-- The name of the declared field. -/
  field : String
  /-- The name in queries. -/
  name : String
  kind : SeekKind
  shape : Shape
  element : List Token

structure DerivedSchema where
  name : String
  entries : List Entry

/-! ### Derivation -/

namespace Entry

def constant (entry : Entry) : String :=
  constantName entry.name

end Entry

/-- The entry of a declared field. Fields that are skipped or have no kind have none. -/
def entryOf? (field : DeclaredField) : Except DeriveError (Option Entry) := do
  match ← SeekOptions.ofAttributes? field.attributes with
  | some { kind := some kind, skip := false, rename } =>
    let (shape, element) := field.type.shape
    let name := rename.getD field.name
    if isWord (constantName name).toList then
      return some { field := field.name, name, kind, shape, element := element.tokens }
    else throw (.noConstantName name)
  | _ => return none

def entriesOf : List DeclaredField → Except DeriveError (List Entry)
  | [] => return []
  | field :: fields => do
    let first ← entryOf? field
    let rest ← entriesOf fields
    return first.toList ++ rest

def DerivedSchema.ofDeclaration (declaration : Declaration) : Except DeriveError DerivedSchema :=
  if declaration.generic then .error .generic
  else match declaration.body with
    | .unnamed => .error .noNamedFields
    | .other => .error .noStruct
    | .named fields => (entriesOf fields).map fun entries => ⟨declaration.name, entries⟩

def DerivedSchema.ofDescription (description : Description) : Except DeriveError DerivedSchema :=
  match Declaration.ofText? description.source with
  | some declaration => ofDeclaration declaration
  | none => .error .unreadable

/-! ### Generated code -/

/-- Code from a template with blanks between its tokens. -/
def template (s : String) : Code :=
  Text.split ' ' s

def block (code : Code) : Code :=
  "\x7b" :: (code ++ ["\x7d"])

/-- The value of a record that a field can hold. -/
def valueCode (constructor : String) : Code :=
  template (": : seekspec : : Value : : " ++ constructor)

namespace SeekKind

/-- The function that makes the definition of a field. -/
def definition : SeekKind → String
  | text => "string"
  | number => "number"
  | timestamp => "timestamp"
  | uuid => "uuid"
  | enumeration => "enumeration"
  | bool => "boolean"
  | object => "object"

/-- What the definition of a field needs to know of the type of its elements. -/
def detail? : SeekKind → Option Code
  | enumeration => some (template "as : : seekspec : : SeekerEnum > : : VARIANTS")
  | object => some (template "as : : seekspec : : Seekable > : : schema")
  | _ => none

/-- The value for a reference to an element. -/
def elementCode : SeekKind → Code
  | text => valueCode "String ( : : core : : convert : : AsRef : : < str > : : as_ref ( v ) )"
  | number => valueCode "Number ( : : seekspec : : Number : : from ( * v ) )"
  | timestamp =>
    valueCode "Timestamp ( : : seekspec : : SeekerTimestamp : : seeker_timestamp ( v ) )"
  | uuid => valueCode "Uuid ( * v )"
  | enumeration => valueCode "Enum ( : : seekspec : : SeekerEnum : : seeker_discriminant ( v ) )"
  | bool => valueCode "Bool ( * v )"
  | object => valueCode "Object ( v )"

end SeekKind

/-- The calls that mark how a field wraps its elements. -/
def Shape.calls : Shape → List String
  | plain => []
  | optional => ["nullable"]
  | list => ["list"]
  | optionalList => ["list", "nullable"]

def absentCode : Code :=
  valueCode "None"

def listCode (kind : SeekKind) (items : Code) : Code :=
  valueCode "List (" ++ items ++ template ". iter ( ) . map ( | v |" ++ kind.elementCode ++
    template ") . collect ( ) )"

def matchCode (subject : Code) (binding : String) (present : Code) : Code :=
  template "match &" ++ subject ++ block (template (": : core : : option : : Option : : Some ( " ++
    binding ++ " ) = >") ++ present ++ template ": : core : : option : : Option : : None = >" ++
    absentCode ++ [","])

namespace Entry

/-- The code of the second argument of the definition, if it has one. -/
def argument? (entry : Entry) : Option Code :=
  entry.kind.detail?.map fun detail => "<" :: (Token.listCode entry.element ++ detail)

def pattern (entry : Entry) : Code :=
  [Text.quote entry.name]

def body (entry : Entry) : Code :=
  let subject := ["self", ".", entry.field]
  match entry.shape with
  | .plain => block (template "let v = &" ++ subject ++ [";"] ++ entry.kind.elementCode)
  | .optional => matchCode subject "v" (entry.kind.elementCode ++ [","])
  | .list => listCode entry.kind subject
  | .optionalList => matchCode subject "items" (block (listCode entry.kind ["items"]))

end Entry

namespace DerivedSchema

def constants (schema : DerivedSchema) : List (String × String) :=
  schema.entries.map fun entry => (entry.constant, entry.name)

/-- The arms of the accessor; the last one answers all other names. -/
def arms (schema : DerivedSchema) : List (Code × Code) :=
  (schema.entries.map fun entry => (entry.pattern, entry.body)) ++ [(["_"], absentCode)]

end DerivedSchema

end RecordQuery.Derive
