import RecordQuery.Derive.Attribute
import RecordQuery.Derive.Lexer

/-! # Declarations

The declaration of a type in source text: its name, whether it is generic, and its fields if it is
a struct that names them.
-/

namespace RecordQuery.Derive

structure Declaration where
  name : String
  generic : Bool
  body : Body

/-! ### Grammar -/

namespace Grammar

open Reader

def declaration (g : Grammar) : Reader Declaration := do
  g.anyAttributes
  visibility
  let kind ← nameOr ["struct", "enum"]
  let name ← name
  let generic ← g.generics
  match kind with
  | "struct" => return ⟨name, generic, ← g.structBody⟩
  | "enum" => return ⟨name, generic, ← g.enumerationBody⟩
  | "union" => return ⟨name, generic, ← g.unionBody⟩
  | _ => failure

end Grammar

def Declaration.ofText? (text : String) : Option Declaration := do
  let tokens ← scan? text.toList
  match (Grammar.forTokens tokens).declaration.run { ahead := tokens } with
  | some (declaration, { ahead := [], unread := false, .. }) => some declaration
  | _ => none

/-! ### Descriptions -/

inductive Form where
  | named
  | tuple
  | unit
  | enumeration
  | union
  deriving DecidableEq

/-- The parts of a declaration as texts. -/
structure Description where
  name : String
  generics : String := ""
  form : Form := .named
  /-- Name, type and attributes of each field. -/
  fields : List (String × String × List String)

namespace Description

def fieldSource (field : String × String × List String) : String :=
  String.join (field.2.2.map fun text => "#[" ++ text ++ "] ") ++
    field.1 ++ ": " ++ field.2.1 ++ ", "

def fieldsSource (description : Description) : String :=
  "\x7b " ++ String.join (description.fields.map fieldSource) ++ "\x7d"

def source (description : Description) : String :=
  let head := description.name ++ " " ++ description.generics ++ " "
  match description.form with
  | .named => "struct " ++ head ++ description.fieldsSource
  | .tuple => "struct " ++ head ++ "(u8);"
  | .unit => "struct " ++ head ++ ";"
  | .enumeration => "enum " ++ head ++ "\x7b A, B \x7d"
  | .union => "union " ++ head ++ description.fieldsSource

end Description

end RecordQuery.Derive
