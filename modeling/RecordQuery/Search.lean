import RecordQuery.Error
import RecordQuery.Filter.Basic

/-! # Keyword search

A keyword is looked for in text fields, case aside. The fields are either named by the caller or
all text fields that nested records and collections lead to within a depth.
-/

namespace RecordQuery.Search

/-- Adds a path unless the same path is already there. -/
def addPath (paths : List Path) (path : Path) : List Path :=
  if paths.all fun p => p.text != path.text then paths ++ [path] else paths

/-- The named paths that lead to text; other names are skipped. -/
def explicitTargets (schema : Schema) (names : List String) : List Path :=
  names.foldl (fun paths name =>
    match schema.resolve? name with
    | some path => if path.leaf.kind = .text then addPath paths path else paths
    | none => paths) []

/-- All paths to text with at most `depth` fields before the leaf, in the order of the fields. -/
def discover (schema : Schema) (before : List Field) : Nat → List Path
  | 0 => schema.type.fields.filterMap fun f =>
    if f.kind = .text then some ⟨before, f⟩ else none
  | depth + 1 => schema.type.fields.flatMap fun f =>
    if f.kind = .text then [⟨before, f⟩]
    else match schema.nested? f with
      | some inner => discover inner (before ++ [f]) depth
      | none => []

/-- The paths to search: the named ones, or those discovered when no name is given. -/
def targets (schema : Schema) (names : Option (List String)) (depth : Nat) : List Path :=
  match names with
  | some (name :: names) => explicitTargets schema (name :: names)
  | _ => discover schema [] depth

/-- The filter of the records with the keyword in one of the searched fields. Without a field to
search nothing matches. -/
def compile (schema : Schema) (keyword : String) (names : Option (List String)) (depth : Int) :
    Except QueryError Filter :=
  if depth < 0 then .error (.negativeDepth depth)
  else match targets schema names depth.toNat with
    | [] => .ok (.const false)
    | paths => .ok (.any (paths.map fun path => .atPath path .contains (.text keyword) true))

end RecordQuery.Search
