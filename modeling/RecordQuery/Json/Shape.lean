import RecordQuery.Json.Tree

/-! # Reading structures

A structure is spelled as an object with a member per field or as an array with the fields in
order. Members that are no field are ignored, a field given twice is an error, and whether a field
may be left out is up to the structure.
-/

namespace RecordQuery.Json.Tree

/-- The fields of a structure in order; `none` inside the list for one that is left out. -/
def fields? (names : List String) : Tree → Option (List (Option Tree))
  | .object members =>
    if members.any (·.1.isNone) then none
    else names.mapM fun name =>
      match members.filter (·.1 == some name) with
      | [] => some none
      | [(_, value)] => some (some value)
      | _ => none
  | .array items =>
    if names.length < items.length then none
    else some (items.map some ++ List.replicate (names.length - items.length) none)
  | _ => none

def orDefault {α : Type} (field : Option Tree) (default : α) (read : Tree → Option α) : Option α :=
  match field with
  | some tree => read tree
  | none => some default

def nullable {α : Type} (read : Tree → Option α) : Tree → Option (Option α)
  | .null => some none
  | tree => (read tree).map some

/-- A whole number that fits an unsigned word. -/
def natural? : Tree → Option Nat
  | .number (some (.whole n _)) => if 0 ≤ n then some n.toNat else none
  | _ => none

/-- A whole number that fits a signed word of 32 bits. -/
def int32? : Tree → Option Int
  | .number (some (.whole n _)) => if -0x80000000 ≤ n ∧ n < 0x80000000 then some n else none
  | _ => none

def flag? : Tree → Option Bool
  | .bool b => some b
  | _ => none

def string? : Tree → Option String
  | .text value => value
  | _ => none

def list? {α : Type} (read : Tree → Option α) : Tree → Option (List α)
  | .array items => items.mapM read
  | _ => none

end RecordQuery.Json.Tree
