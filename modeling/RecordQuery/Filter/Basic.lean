import RecordQuery.Clause

/-! # Filters

A filter is a predicate on records, built from clauses. Conjunctions and disjunctions are kept flat.
-/

namespace RecordQuery

inductive Filter where
  | const (b : Bool)
  | clause (c : Clause)
  | conj (children : List Filter)
  | disj (children : List Filter)
  | neg (inner : Filter)
  /-- The nested record of a field satisfies the inner filter. -/
  | scope (field : String) (inner : Filter)
  /-- Some element of a collection satisfies the inner filter. -/
  | some (field : String) (inner : Filter)
  deriving Inhabited

/-- What a filter is tested on: a record, or an element of a collection that is none. -/
inductive Subject where
  | record (r : Record)
  | element (value : Value)

namespace Subject

def ofElement : Value → Subject
  | .record r => record r
  | value => element value

/-- The value that a clause compares: the one at a dotted path, or the element itself. -/
def read : Subject → Option String → Value
  | record r, .some path => r.readPath path
  | element value, none => value
  | _, _ => .absent

end Subject

namespace Filter

/-! ### Meaning -/

mutual

def holds (subject : Subject) : Filter → Bool
  | .const b => b
  | .clause c => c.holds (subject.read c.field)
  | .conj children => holdsAll subject children
  | .disj children => holdsAny subject children
  | .neg inner => !holds subject inner
  | .scope field inner => match subject.read (Option.some field) with
    | .record r => holds (.record r) inner
    | _ => false
  | .some field inner => match subject.read (Option.some field) with
    | .list items => items.any fun item => holds (.ofElement item) inner
    | _ => false

def holdsAll (subject : Subject) : List Filter → Bool
  | [] => true
  | child :: children => holds subject child && holdsAll subject children

def holdsAny (subject : Subject) : List Filter → Bool
  | [] => false
  | child :: children => holds subject child || holdsAny subject children

end

def accepts (f : Filter) (r : Record) : Bool :=
  f.holds (.record r)

/-! ### Construction -/

/-- The parts of a conjunction: a conjunction gives its children, and what always holds none. -/
def conjuncts : Filter → List Filter
  | conj children => children
  | const true => []
  | f => [f]

def disjuncts : Filter → List Filter
  | disj children => children
  | f => [f]

/-- The flat conjunction of filters; none of them always holds. -/
def all (filters : List Filter) : Filter :=
  match filters.flatMap conjuncts with
  | [] => const true
  | [f] => f
  | children => conj children

def any (filters : List Filter) : Filter :=
  match filters.flatMap disjuncts with
  | [f] => f
  | children => disj children

def and (a b : Filter) : Filter :=
  all [a, b]

def or (a b : Filter) : Filter :=
  any [a, b]

/-- Brings a filter on the records that a chain of fields leads to back to where the chain
begins. -/
def within (hops : List Field) (inner : Filter) : Filter :=
  hops.foldr (fun hop inner => if hop.collection then some hop.name inner else scope hop.name inner)
    inner

/-- A clause at a path. If the path ends in a collection, some element satisfies the clause. -/
def atPath (path : Path) (op : Op) (operand : Operand) (ignoreCase : Bool) : Filter :=
  let leaf := path.leaf
  within path.before <|
    if leaf.collection then some leaf.name (clause ⟨none, op, operand, ignoreCase⟩)
    else clause ⟨Option.some leaf.name, op, operand, ignoreCase⟩

/-! ### Text -/

mutual

def describe : Filter → String
  | .const true => "true"
  | .const false => "false"
  | .clause c => c.describe
  | .conj children => "(" ++ describeList " AND " children ++ ")"
  | .disj children => "(" ++ describeList " OR " children ++ ")"
  | .neg inner => "NOT " ++ describe inner
  | .scope field inner => field ++ " \x7b" ++ describe inner ++ "\x7d"
  | .some field inner => field ++ " ANY \x7b" ++ describe inner ++ "\x7d"

def describeList (separator : String) : List Filter → String
  | [] => ""
  | [child] => describe child
  | child :: children => describe child ++ separator ++ describeList separator children

end

/-! ### Meaning of the constructions -/

theorem holdsAll_eq (subject : Subject) (filters : List Filter) :
    holdsAll subject filters = filters.all (holds subject) := by
  induction filters with
  | nil => rfl
  | cons f fs ih => simp [holdsAll, ih]

theorem holdsAny_eq (subject : Subject) (filters : List Filter) :
    holdsAny subject filters = filters.any (holds subject) := by
  induction filters with
  | nil => rfl
  | cons f fs ih => simp [holdsAny, ih]

end Filter

/-- Joins predicates. Nothing to join does not constrain anything. -/
def Combinator.join (combinator : Combinator) (filters : List Filter) : Filter :=
  if filters.isEmpty then .const true
  else match combinator with
    | .and => .all filters
    | .or => .any filters

end RecordQuery
