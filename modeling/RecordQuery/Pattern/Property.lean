import RecordQuery.Pattern.Property.Age
import RecordQuery.Pattern.Property.Break
import RecordQuery.Pattern.Property.ScriptExtension

/-! # Properties by name

A property is named alone, as a binary property, a category or a script, or it is a name with a
value.
-/

namespace RecordQuery.Pattern.Property

/-- The abbreviations of categories that abbreviate a property as well. -/
def isCategoryFirst (name : List Char) : Bool :=
  ["cf", "sc", "lc"].any (·.toList == looseName name)

def find? (name : List Char) : Option CharSet :=
  let binary := if isCategoryFirst name then none else NamedSet.find? table name
  (binary.or (NamedSet.find? Category.table name)).or (NamedClass.find? Script.table name)

def findValue? (name value : List Char) : Option CharSet :=
  match String.ofList (looseName name) with
  | "gc" | "generalcategory" => NamedSet.find? Category.table value
  | "sc" | "script" => NamedClass.find? Script.table value
  | "scx" | "scriptextensions" => ScriptExtension.find? value
  | "age" => Age.find? value
  | "gcb" | "graphemeclusterbreak" => NamedSet.find? GraphemeBreak.table value
  | "wb" | "wordbreak" => NamedSet.find? WordBreak.table value
  | "sb" | "sentencebreak" => NamedSet.find? SentenceBreak.table value
  | _ => none

/-- The parts of a text around the first place where `mark` stands in it. -/
def splitAtMark? (mark : List Char) : List Char → Option (List Char × List Char)
  | [] => none
  | c :: cs =>
    if mark.isPrefixOf (c :: cs) then some ([], (c :: cs).drop mark.length)
    else (splitAtMark? mark cs).map fun (before, after) => (c :: before, after)

/-- The set that a property in braces stands for. A name and its value are parted by the first
mark of the kind that comes first in the order of the marks. -/
def ofText? (text : List Char) : Option CharSet :=
  let parts := ((splitAtMark? ['!', '='] text).or (splitAtMark? [':'] text)).or
    (splitAtMark? ['='] text)
  match parts with
  | some (name, value) => findValue? name value
  | none => find? text

end RecordQuery.Pattern.Property
