import RecordQuery.Proofs.LetterCase

/-!
# Canonical paths

A segment of a path may stand in any letter case and between blanks, and a path is found under all
its spellings and under no other text. Its own text is the spelling with the declared names, so that
text stands for the path wherever paths are compared.
-/

namespace RecordQuery

namespace Text

/-! ### Blanks around a text -/

theorem trimLeft_append_of_blank {left : List Char} (h : ∀ c ∈ left, isBlankChar c = true)
    (cs : List Char) : trimLeft (left ++ cs) = trimLeft cs := by
  rw [trimLeft, trimLeft, List.dropWhile_append_of_pos h]

theorem trimChars_append_of_blank (cs : List Char) {right : List Char}
    (h : ∀ c ∈ right, isBlankChar c = true) : trimChars (cs ++ right) = trimChars cs := by
  by_cases hblank : ∀ c ∈ cs, isBlankChar c = true
  · have hall : ∀ c ∈ cs ++ right, isBlankChar c = true := by
      intro c hc
      exact (List.mem_append.mp hc).elim (hblank c) (h c)
    rw [trimChars_eq_nil_iff.mpr hall, trimChars_eq_nil_iff.mpr hblank]
  · have hleft : trimLeft (cs ++ right) = trimLeft cs ++ right := by
      rw [trimLeft, List.dropWhile_append, if_neg (by simpa using hblank), trimLeft]
    rw [trimChars, hleft, List.reverse_append,
      trimLeft_append_of_blank (by simpa using h), trimChars]

/-- Blanks at the ends of a text are trimmed with those that it has there. -/
theorem trim_append_of_blank {left right : String} (hleft : isBlank left = true)
    (hright : isBlank right = true) (s : String) : trim (left ++ s ++ right) = trim s := by
  rw [trim, trim, String.toList_append, String.toList_append,
    trimChars_append_of_blank _ (isBlank_iff.mp hright), trimChars,
    trimLeft_append_of_blank (isBlank_iff.mp hleft), trimChars]

theorem takeWhile_append_trimLeft (cs : List Char) :
    cs.takeWhile isBlankChar ++ trimLeft cs = cs :=
  List.takeWhile_append_dropWhile

theorem trimChars_append_takeWhile (cs : List Char) :
    trimChars cs ++ ((trimLeft cs).reverse.takeWhile isBlankChar).reverse = trimLeft cs := by
  rw [trimChars, ← List.reverse_append, takeWhile_append_trimLeft, List.reverse_reverse]

/-- Trimming takes blanks off both ends and nothing else. -/
theorem exists_append_trim (s : String) :
    ∃ left right, isBlank left = true ∧ isBlank right = true ∧ s = left ++ trim s ++ right := by
  have hblank : ∀ cs : List Char, ∀ c ∈ cs.takeWhile isBlankChar, isBlankChar c = true :=
    fun _ _ => List.mem_takeWhile_imp
  refine ⟨String.ofList (s.toList.takeWhile isBlankChar),
    String.ofList ((trimLeft s.toList).reverse.takeWhile isBlankChar).reverse, ?_, ?_, ?_⟩
  · rw [isBlank_iff, String.toList_ofList]
    exact hblank _
  · rw [isBlank_iff, String.toList_ofList]
    exact fun c hc => hblank _ c (List.mem_reverse.mp hc)
  · rw [← String.toList_inj, String.toList_append, String.toList_append, trim]
    simp only [String.toList_ofList, List.append_assoc]
    rw [trimChars_append_takeWhile, takeWhile_append_trimLeft]

/-! ### Spellings -/

/-- The second text is the first in some ASCII case, with white space around it. -/
def RespelledSegment (segment other : String) : Prop :=
  ∃ left core right, isBlank left = true ∧ isBlank right = true ∧
    sameName core segment = true ∧ other = left ++ core ++ right

/-- The segments of the second dotted text are those of the first in some ASCII case, with white
space around them. -/
def Respelled (path other : String) : Prop :=
  List.Forall₂ RespelledSegment (split '.' path) (split '.' other)

theorem sameName_trim {a b : String} (h : sameName a b = true) :
    sameName (trim a) (trim b) = true := by
  rw [sameName_iff, ← trim_asciiLower, sameName_iff.mp h, trim_asciiLower]

/-- A respelled segment is the same name once both are trimmed. -/
theorem RespelledSegment.sameName_trim {segment other : String}
    (h : RespelledSegment segment other) : sameName (trim other) (trim segment) = true := by
  obtain ⟨left, core, right, hleft, hright, hcore, rfl⟩ := h
  rw [trim_append_of_blank hleft hright]
  exact Text.sameName_trim hcore

theorem respelledSegment_of_sameName_trim {name other : String}
    (h : sameName name (trim other) = true) : RespelledSegment name other := by
  obtain ⟨left, right, hleft, hright, hother⟩ := exists_append_trim other
  rw [sameName_comm] at h
  exact ⟨left, trim other, right, hleft, hright, h, hother⟩

end Text

/-! ### Paths -/

namespace Schema

variable {schema : Schema}

/-- Respelling a text does not change what it resolves to, nor whether it does. -/
theorem resolve?_respelled {text other : String} (h : Text.Respelled text other) :
    schema.resolve? other = schema.resolve? text := by
  rw [resolve?, resolve?]
  refine follow?_congr (List.forall₂_map_left_iff.mpr (List.forall₂_map_right_iff.mpr ?_))
  exact h.flip.imp fun _ _ hsegment => Text.RespelledSegment.sameName_trim hsegment

/-- A text that resolves spells the names of its path. -/
theorem respelled_text {text : String} {path : Path} (h : schema.resolve? text = some path) :
    Text.Respelled path.text text := by
  rw [Text.Respelled, Path.split_text (resolve?_undotted h), List.forall₂_map_left_iff]
  have hnames := List.forall₂_map_right_iff.mp (follow?_sameName h)
  exact hnames.imp fun _ _ hname => Text.respelledSegment_of_sameName_trim hname

/-- **Paths are canonical.** The text of a resolved path resolves to it again, and so does every
respelling of a text that resolves to it. No text resolves to the path but the respellings of its own
text. -/
theorem resolve?_canonical {text : String} {path : Path} (h : schema.resolve? text = some path) :
    schema.resolve? path.text = some path ∧
      (∀ other, Text.Respelled text other → schema.resolve? other = some path) ∧
      ∀ other, schema.resolve? other = some path ↔ Text.Respelled path.text other := by
  have hself : schema.resolve? path.text = some path := resolve?_text h
  refine ⟨hself, fun other hother => ?_, fun other => ⟨respelled_text, fun hother => ?_⟩⟩
  · rw [resolve?_respelled hother, h]
  · rw [resolve?_respelled hother, hself]

end Schema

/-! ### Folders in folders

A folder leads to folders again, and two of its fields differ by case alone. -/

namespace Folder

def parent : Field where
  name := "Parent"
  kind := .object
  nested := some 0

def title : Field where
  name := "Title"
  kind := .text

def lowerTitle : Field where
  name := "title"
  kind := .number

def folder : RecordType := ⟨"Folder", [parent, title, lowerTitle]⟩

def schema : Schema := ⟨[folder], folder⟩

/-- The first of the two titles is found, under each spelling. -/
theorem title_of_grandparent : ∃ path, schema.resolve? "parent.PARENT.title" = some path ∧
    path.text = "Parent.Parent.Title" ∧ schema.resolve? path.text = some path ∧
      Text.Respelled "parent.PARENT.title" " Parent .parent.\tTITLE" ∧
        schema.resolve? " Parent .parent.\tTITLE" = some path := by
  have hpath : schema.resolve? "parent.PARENT.title" = some ⟨[parent, parent], title⟩ := by
    decide +kernel
  have hrespelled : Text.Respelled "parent.PARENT.title" " Parent .parent.\tTITLE" :=
    .cons ⟨" ", "Parent", " ", by decide +kernel⟩
      (.cons ⟨"", "parent", "", by decide +kernel⟩
        (.cons ⟨"\t", "TITLE", "", by decide +kernel⟩ .nil))
  obtain ⟨hself, hspellings, -⟩ := Schema.resolve?_canonical hpath
  exact ⟨_, hpath, rfl, hself, hrespelled, hspellings _ hrespelled⟩

end Folder

end RecordQuery
