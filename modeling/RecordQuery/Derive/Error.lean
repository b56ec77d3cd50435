/-! # Errors of derivations -/

namespace RecordQuery

/-- Why no schema can be derived from a declaration. -/
inductive DeriveError where
  | unreadable
  | generic
  | noNamedFields
  | noStruct
  | malformedAttribute
  | unknownKind (name : String)
  | kindExpected
  | textExpected
  | unknownAttribute
  | nestedList
  /-- The name of a field makes no name of a constant. -/
  | noConstantName (name : String)
  deriving DecidableEq

namespace DeriveError

def kindNames : String := "String, Number, Timestamp, Uuid, Enum, Bool, Object"

/-- The message of an error that has a wording of its own. -/
def message? : DeriveError → Option String
  | unreadable => none
  | generic => some "Seekable cannot be derived for generic structs"
  | noNamedFields => some "Seekable can only be derived for structs with named fields"
  | noStruct => some "Seekable can only be derived for structs"
  | malformedAttribute => none
  | unknownKind name =>
    some ("unknown seek kind '" ++ name ++ "', expected one of: " ++ kindNames)
  | kindExpected => some ("expected a seek kind (" ++ kindNames ++ ") or skip")
  | textExpected => some "expected a string literal"
  | unknownAttribute => some "unknown attribute, expected rename or ty"
  | nestedList => some "unexpected nested list in #[seek(...)]"
  | noConstantName _ => none

end DeriveError

end RecordQuery
