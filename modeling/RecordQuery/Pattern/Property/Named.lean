import RecordQuery.Pattern.CharSet

/-! # Names of classes

A class of characters has a short name and a long one. Case, blanks, underscores, hyphens and a
leading "is" do not matter when a name is looked up.
-/

namespace RecordQuery.Pattern

/-- What is left of a name when the differences that do not matter are gone. -/
def looseName (name : List Char) : List Char :=
  let letters (cs : List Char) : List Char :=
    (cs.filter fun c => c.toNat < 0x80 && c != ' ' && c != '_' && c != '-').map Char.toLower
  match name with
  | i :: s :: rest =>
    if i.toLower = 'i' ∧ s.toLower = 's' then
      match letters rest with
      -- The name of a property of comments, which is no name of a class.
      | ['c'] => ['i', 's', 'c']
      | short => short
    else letters name
  | _ => letters name

/-- One of the names is meant. -/
def hasName (name : List Char) (names : List String) : Bool :=
  names.any fun known => looseName known.toList == looseName name

structure NamedSet where
  names : List String
  set : CharSet

def NamedSet.find? (table : List NamedSet) (name : List Char) : Option CharSet :=
  (table.find? (hasName name ·.names)).map NamedSet.set

/-- A set in writing with its names. -/
structure NamedClass where
  names : List String
  lines : List String

def NamedClass.set (row : NamedClass) : CharSet :=
  .ofLines row.lines

def NamedClass.find? (table : List NamedClass) (name : List Char) : Option CharSet :=
  (table.find? (hasName name ·.names)).map NamedClass.set

end RecordQuery.Pattern
