import RecordQuery.Schema

/-! # Comparison operators

The operators of clauses, and the tokens that name them in filter documents.
-/

namespace RecordQuery

/-- A comparison of a field with an operand. `before` and `after` follow the sort order, in which
absent values come last. -/
inductive Op where
  | eq
  | ne
  | isIn
  | startsWith
  | endsWith
  | contains
  | regex
  | gt
  | gte
  | lt
  | lte
  | before
  | after
  deriving DecidableEq

namespace Op

def name : Op → String
  | eq => "eq"
  | ne => "ne"
  | isIn => "in"
  | startsWith => "startswith"
  | endsWith => "endswith"
  | contains => "contains"
  | regex => "regex"
  | gt => "gt"
  | gte => "gte"
  | lt => "lt"
  | lte => "lte"
  | before => "before"
  | after => "after"

/-- The operators in the order of their groups. -/
def all : List Op :=
  [eq, ne, isIn, startsWith, endsWith, contains, regex, gt, gte, lt, lte, before, after]

def supports (op : Op) (kind : Kind) : Bool :=
  match op with
  | eq | ne | isIn | before | after => kind != .object
  | startsWith | endsWith | contains | regex => kind == .text
  | gt | gte | lt | lte => kind.isOrdinal

/-- What the operator says of a field that stands in the given order to the operand. -/
def accepts (op : Op) (ordering : Ordering) : Bool :=
  match op with
  | eq => ordering == .eq
  | ne => ordering != .eq
  | gt | after => ordering == .gt
  | gte => ordering != .lt
  | lt | before => ordering == .lt
  | lte => ordering != .gt
  | isIn | startsWith | endsWith | contains | regex => false

end Op

/-- What an operator token stands for. -/
inductive Operator where
  /-- A comparison, its case rule and whether it is negated. -/
  | compare (op : Op) (ignoreCase negated : Bool)
  /-- Two inclusive bounds. -/
  | between
  deriving DecidableEq

namespace Operator

/-- The comparisons by their lower-case names without the dollar sign. -/
def comparison? : String → Option (Op × Bool)
  | "eq" => some (.eq, false)
  | "eqi" => some (.eq, true)
  | "ne" => some (.ne, false)
  | "nei" => some (.ne, true)
  | "gt" => some (.gt, false)
  | "gte" => some (.gte, false)
  | "lt" => some (.lt, false)
  | "lte" => some (.lte, false)
  | "in" => some (.isIn, false)
  | "contains" => some (.contains, false)
  | "containsi" => some (.contains, true)
  | "startswith" => some (.startsWith, false)
  | "startswithi" => some (.startsWith, true)
  | "endswith" => some (.endsWith, false)
  | "endswithi" => some (.endsWith, true)
  | "regex" => some (.regex, false)
  | _ => none

/-- A token in any ASCII case. Membership and containment have a negated form that begins with
`not`. -/
def ofToken? (token : String) : Option Operator :=
  match token.toList with
  | '$' :: chars =>
    match chars.map Char.toLower with
    | ['b', 'e', 't', 'w', 'e', 'e', 'n'] => some .between
    | 'n' :: 'o' :: 't' :: name =>
      match comparison? (String.ofList name) with
      | some (.isIn, ignoreCase) => some (.compare .isIn ignoreCase true)
      | some (.contains, ignoreCase) => some (.compare .contains ignoreCase true)
      | _ => none
    | name => (comparison? (String.ofList name)).map fun (op, ignoreCase) =>
        .compare op ignoreCase false
  | _ => none

end Operator

inductive Combinator where
  | and
  | or
  deriving DecidableEq

/-- The combinator that a key of a filter document names, in any ASCII case. -/
def Combinator.ofKey? (key : String) : Option Combinator :=
  if Text.sameName key "$and" then some .and
  else if Text.sameName key "$or" then some .or
  else none

end RecordQuery
