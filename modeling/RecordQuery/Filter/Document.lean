import RecordQuery.Coercion
import RecordQuery.Filter.Basic

/-! # Filter documents

A filter document is a JSON object. Its keys are field paths or the combinators `$and` and `$or`,
and the value of a scalar field is a condition: a raw scalar for equality, a raw array for
membership or an object of operators. A nested object takes the document of its record, and a
collection takes entries that one and the same element has to satisfy.

Documents are compiled against a schema. The members of an object are conjoined in key order, and
the first error in that order counts.
-/

namespace RecordQuery.Filter

/-- The key of the condition on the elements of a collection. -/
def anyKey : String := "$any"

def startsWithDollar (key : String) : Bool :=
  key.toList.head? == Option.some '$'

/-! ### Conditions on scalars -/

/-- The target of a scalar condition: a field of a record, or an element of a collection when there
is no field, with its kind. -/
structure Target where
  field : Option String
  kind : Kind
  nullable : Bool

namespace Target

def ofLeaf (leaf : Field) : Target :=
  ⟨Option.some leaf.name, leaf.kind, leaf.nullable⟩

def ofElement (leaf : Field) : Target :=
  ⟨none, leaf.kind, leaf.nullable⟩

def clause (target : Target) (op : Op) (operand : Operand) (ignoreCase : Bool) : Filter :=
  .clause ⟨target.field, op, operand, ignoreCase⟩

def operand (target : Target) (op : Op) (value : Json) : Except QueryError Operand :=
  match op, value with
  | .isIn, .array items => (coerceAll target.kind target.nullable items).map .set
  | .isIn, _ => .error (.malformedFilter .membersNeedArray)
  | .regex, .text source => match Pattern.ofText? source with
    | .some p => .ok (.pattern p)
    | none => .error .invalidPattern
  | .regex, _ => .error (.malformedFilter .patternNeedsText)
  | _, value => coerce target.kind target.nullable value

def compileOperator (target : Target) (operator : Operator) (value : Json) :
    Except QueryError Filter :=
  match operator with
  | .between =>
    if target.kind.isOrdinal then
      match value with
      | .array [low, high] => do
        let low ← coerce target.kind target.nullable low
        let high ← coerce target.kind target.nullable high
        .ok (.all [target.clause .gte low false, target.clause .lte high false])
      | _ => .error (.malformedFilter .boundsNeedPair)
    else .error (.operatorNotForKind "between" target.kind.name)
  | .compare op ignoreCase negated =>
    if op.supports target.kind then do
      let operand ← target.operand op value
      let filter := target.clause op operand (ignoreCase && target.kind == .text)
      .ok (if negated then .neg filter else filter)
    else .error (.operatorNotForKind op.name target.kind.name)

mutual

def compile (target : Target) : Json → Except QueryError Filter
  | .object members => (compileMembers target members).map .all
  | .array items => do
    let operands ← coerceAll target.kind target.nullable items
    .ok (target.clause .isIn (.set operands) false)
  | value => do
    let operand ← coerce target.kind target.nullable value
    .ok (target.clause .eq operand false)

def compileMembers (target : Target) : List (String × Json) → Except QueryError (List Filter)
  | [] => .ok []
  | (token, value) :: members => do
    let first ← match Combinator.ofKey? token with
      | .some combinator => match value with
        | .array items => (compileAll target items).map combinator.join
        | _ => .error (.malformedFilter (.combinatorNeedsArray token))
      | none => match Operator.ofToken? token with
        | .some operator => target.compileOperator operator value
        | none => .error (.unknownOperator token)
    let rest ← compileMembers target members
    .ok (first :: rest)

def compileAll (target : Target) : List Json → Except QueryError (List Filter)
  | [] => .ok []
  | value :: values => do
    let first ← compile target value
    let rest ← compileAll target values
    .ok (first :: rest)

end

end Target

/-! ### Documents -/

mutual

def compileMembers (schema : Schema) : List (String × Json) → Except QueryError (List Filter)
  | [] => .ok []
  | (key, value) :: members => do
    let first ← compileMember schema key value
    let rest ← compileMembers schema members
    .ok (first :: rest)

/-- The filter of one member of a document: a combinator or a field. -/
def compileMember (schema : Schema) (key : String) (value : Json) : Except QueryError Filter :=
  match Combinator.ofKey? key with
  | .some combinator => match value with
    | .array items => (compileDocuments schema key items).map combinator.join
    | _ => .error (.malformedFilter (.combinatorNeedsArray key))
  | none =>
    if startsWithDollar key then .error (.unknownOperator key)
    else match schema.resolve? key with
      | none => .error (.fieldNotFound key)
      | .some path =>
        if path.leaf.collection then
          match value with
          | .object members =>
            (compileElements (schema.nested? path.leaf) (.ofElement path.leaf) path.text members).map
              fun filters => within path.before (.some path.leaf.name (.all filters))
          | _ => .error (.ambiguousCollection path.text)
        else if path.leaf.kind = .object then
          match schema.nested? path.leaf with
          | none => .error (.fieldNotFound path.text)
          | .some inner => match value with
            | .object members => (compileMembers inner members).map fun filters =>
                within path.before (.scope path.leaf.name (.all filters))
            | _ => .error (.malformedFilter (.objectNeedsFields path.text))
        else ((Target.ofLeaf path.leaf).compile value).map (within path.before)

def compileDocuments (schema : Schema) (key : String) : List Json → Except QueryError (List Filter)
  | [] => .ok []
  | value :: values => do
    let first ← match value with
      | .object members => (compileMembers schema members).map .all
      | _ => .error (.malformedFilter (.combinatorNeedsObjects key))
    let rest ← compileDocuments schema key values
    .ok (first :: rest)

/-- The filters of the entries of a collection at a path. The elements are records if they have a
schema and scalars otherwise. -/
def compileElements (inner? : Option Schema) (target : Target) (path : String) :
    List (String × Json) → Except QueryError (List Filter)
  | [] => .ok []
  | (key, value) :: members => do
    let first ←
      if Text.sameName key anyKey then
        match inner? with
        | .some inner => match value with
          | .object members => (compileMembers inner members).map .all
          | _ => .error (.ambiguousCollection path)
        | none => target.compile value
      else if startsWithDollar key && (Combinator.ofKey? key).isNone then
        .error (.ambiguousCollection path)
      else match inner? with
        | .some inner => (compileMember inner key value).map fun filter => .all [filter]
        | none => .error (.ambiguousCollection path)
    let rest ← compileElements inner? target path members
    .ok (first :: rest)

end

/-- The filter of a whole document; null does not constrain anything. -/
def compile (schema : Schema) : Json → Except QueryError Filter
  | .null => .ok (.const true)
  | .object members => (compileMembers schema members).map .all
  | value => .error (.malformedFilter (.notAnObject value.typeName))

end RecordQuery.Filter
