import RecordQuery.Proofs.ConditionMeaning

/-!
# The meaning of filter documents

A document has a meaning of its own, read off the JSON and the record without a filter in between.
-/

namespace RecordQuery

namespace Value

/-- What a collection holds. -/
def elements : Value → List Value
  | .list items => items
  | _ => []

/-- An element as a record; one that is absent has no fields. -/
def asRecord : Value → Record
  | .record r => r
  | _ => []

end Value

/-- The condition holds where the hops lead: on the nested record of a field, which has to be there,
or on some element of a collection. -/
def Record.along (condition : Record → Bool) : List Field → Record → Bool
  | [], r => condition r
  | hop :: hops, r =>
    if hop.collection then
      (r.read hop.name).elements.any fun item => along condition hops item.asRecord
    else (r.read hop.name).record?.any (along condition hops)

namespace Meaning

mutual

/-- The entries of an object are conjoined. -/
def members (schema : Schema) : List (String × Json) → Record → Bool
  | [], _ => true
  | (key, value) :: rest, r => member schema key value r && members schema rest r

/-- A combinator joins documents. Any other key is a path: the hops lead to the records that have
the leaf, and the value says what is asked of it there. -/
def member (schema : Schema) (key : String) (value : Json) (r : Record) : Bool :=
  match Combinator.ofKey? key with
  | some combinator => match value with
    | .array items => combinator.joins (documents schema items r)
    | _ => false
  | none => match schema.resolve? key with
    | none => false
    | some path =>
      r.along (fun owner =>
        if path.leaf.collection then
          match value with
          | .object rest => (owner.read path.leaf.name).elements.any fun item =>
              entries (schema.nested? path.leaf) path.leaf rest item
          | _ => false
        else if path.leaf.kind = .object then
          match value with
          | .object rest => (schema.nested? path.leaf).any fun inner =>
              (owner.read path.leaf.name).record?.any fun nested => members inner rest nested
          | _ => false
        else condition (.ofLeaf path.leaf) value (owner.read path.leaf.name)) path.before

def document (schema : Schema) : Json → Record → Bool
  | .object rest, r => members schema rest r
  | _, _ => false

def documents (schema : Schema) : List Json → Record → List Bool
  | [], _ => []
  | item :: items, r => document schema item r :: documents schema items r

/-- The entries for a collection, all of them on one element: a record if the collection has a
schema for its elements. -/
def entries (inner? : Option Schema) (leaf : Field) : List (String × Json) → Value → Bool
  | [], _ => true
  | (key, value) :: rest, item =>
    (if Text.sameName key Filter.anyKey then
      match inner? with
      | some inner => document inner value item.asRecord
      | none => condition (.ofElement leaf) value item
    else match inner? with
      | some inner => member inner key value item.asRecord
      | none => false) && entries inner? leaf rest item

end

end Meaning

/-- What a whole document means; null does not constrain anything. -/
def Schema.means (schema : Schema) (document : Json) (r : Record) : Bool :=
  match document with
  | .null => true
  | document => Meaning.document schema document r

end RecordQuery
