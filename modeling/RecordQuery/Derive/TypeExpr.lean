import RecordQuery.Derive.Token

/-! # Type expressions

The types of declared fields. Of a type it matters whether it is a path whose last name is applied
to arguments, for that is how optional values and lists are spelled.
-/

namespace RecordQuery.Derive

inductive TypeExpr where
  /-- A path whose last name has arguments in angle brackets. An argument is a type or, as `none`,
  something else. -/
  | applied (tokens : List Token) (name : String) (arguments : List (Option TypeExpr))
  | other (tokens : List Token)
  deriving Inhabited

namespace TypeExpr

def tokens : TypeExpr → List Token
  | applied tokens _ _ => tokens
  | other tokens => tokens

/-- The only argument of a wrapper with a name. -/
def unwrap? (wrapper : String) : TypeExpr → Option TypeExpr
  | applied _ name [some inner] => if name = wrapper then some inner else none
  | _ => none

end TypeExpr

/-- How a field wraps its element. -/
inductive Shape where
  | plain
  | optional
  | list
  | optionalList
  deriving DecidableEq

namespace TypeExpr

def shape (type : TypeExpr) : Shape × TypeExpr :=
  match type.unwrap? "Option" with
  | some inner => match inner.unwrap? "Vec" with
    | some element => (.optionalList, element)
    | none => (.optional, inner)
  | none => match type.unwrap? "Vec" with
    | some element => (.list, element)
    | none => (.plain, type)

end TypeExpr

end RecordQuery.Derive
