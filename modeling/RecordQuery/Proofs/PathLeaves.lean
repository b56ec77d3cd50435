import RecordQuery.Proofs.CompiledMeaning
import RecordQuery.Proofs.ReachableText

/-!
# Filters at paths and values at paths

A path is followed in two ways: a filter at the path looks into one nested record after the other,
and reading the path gives a value with a list for each collection on the way. In a record of the
declared shape both come to the same values, so the filter accepts the record exactly if its clause
holds of one of the values in the lists.
-/

namespace RecordQuery

/-! ### Values in nested lists -/

namespace Value

mutual

/-- The values in nested lists. A value that is no list stands for itself. -/
def leaves : Value → List Value
  | list items => leavesOfItems items
  | value => [value]

def leavesOfItems : List Value → List Value
  | [] => []
  | item :: items => leaves item ++ leavesOfItems items

end

theorem leaves_list (items : List Value) : (list items).leaves = items.flatMap leaves := by
  rw [leaves]
  induction items with
  | nil => rfl
  | cons item items ih => rw [leavesOfItems, ih, List.flatMap_cons]

theorem leaves_of_single {value : Value} (h : ∀ items, value ≠ list items) :
    value.leaves = [value] := by
  cases value with
  | list items => exact absurd rfl (h items)
  | _ => rfl

theorem mem_filterMap_record? {items : List Value} {r : Record} :
    r ∈ items.filterMap record? ↔ record r ∈ items := by
  rw [List.mem_filterMap]
  constructor
  · rintro ⟨item, hitem, h⟩
    cases item with
    | record fields =>
        cases h
        exact hitem
    | _ => cases h
  · intro h
    exact ⟨_, h, rfl⟩

/-- What is read from the records of a list has the leaves of each record. -/
theorem mem_leaves_records {items : List Value} {read : Record → Value} {value : Value} :
    value ∈ (list ((items.filterMap record?).map read)).leaves ↔
      ∃ r, record r ∈ items ∧ value ∈ (read r).leaves := by
  simp only [leaves_list, List.mem_flatMap, List.mem_map, mem_filterMap_record?,
    exists_exists_and_eq_and]

end Value

namespace Schema

variable {schema : Schema} {f : Field} {value : Value}

theorem Allows.not_list (h : schema.Allows f value) (hsingle : f.collection = false)
    (items : List Value) : value ≠ .list items := by
  rintro rfl
  cases h with
  | scalar _ _ _ hlist => exact hlist items rfl
  | list hmany => rw [hsingle] at hmany; cases hmany

theorem Allows.cases_many (h : schema.Allows f value) (hmany : f.collection = true) :
    value = .absent ∨ ∃ items, value = .list items ∧
      ∀ item ∈ items, schema.Allows { f with collection := false } item := by
  cases h with
  | absent => exact Or.inl rfl
  | scalar _ hsingle => rw [hsingle] at hmany; cases hmany
  | record hsingle => rw [hsingle] at hmany; cases hmany
  | list _ hitems => exact Or.inr ⟨_, rfl, hitems⟩

end Schema

/-! ### What a path finds and what it reads -/

namespace Path

variable {schema : Schema} {r : Record} {value : Value}

/-- At the end of a path stand the value of the leaf or the elements of its list. -/
theorem finds_leaf_iff {f : Field} (h : schema.Allows f (r.read f.name)) (hvalue : value ≠ .absent) :
    r.Finds Record.read f [] value ↔ value ∈ (r.read f.name).leaves := by
  rw [Record.finds_nil]
  split
  next hmany =>
    rcases h.cases_many hmany with hread | ⟨items, hread, hitems⟩
    · simp [hread, Value.leaves, hvalue]
    · have hleaves : ∀ item ∈ items, item.leaves = [item] := fun item hitem =>
        Value.leaves_of_single ((hitems item hitem).not_list rfl)
      simp only [hread, Value.list.injEq, exists_eq_left', Value.leaves_list, List.mem_flatMap]
      constructor
      · intro hmem
        exact ⟨value, hmem, by simp [hleaves value hmem]⟩
      · rintro ⟨item, hitem, hmem⟩
        rw [hleaves item hitem, List.mem_singleton] at hmem
        rwa [hmem]
  next hsingle =>
    rw [Value.leaves_of_single (h.not_list (by simpa using hsingle)), List.mem_singleton]

/-- **What a path finds in a record is in the lists that it reads**, absent values aside. -/
theorem finds_iff_mem_leaves {names : List String} {path : Path}
    (hpath : schema.follow? names = some path) (hr : schema.Shapes r)
    (hvalue : value ≠ .absent) :
    r.Finds Record.read path.leaf path.before value ↔ value ∈ (path.read r).leaves := by
  rw [read]
  -- on the names, since the rest of a path is followed in the nested schema of its first field
  induction names generalizing schema path r with
  | nil => cases hpath
  | cons name names ih =>
      obtain ⟨hallows⟩ := hr
      cases names with
      | nil =>
          obtain ⟨f, hf, rfl⟩ := Option.map_eq_some_iff.mp hpath
          exact finds_leaf_iff (hallows name f hf) hvalue
      | cons next names =>
          obtain ⟨f, nested, rest, hf, hnested, hrest, rfl⟩ := Schema.follow?_cons hpath
          have hread := hallows name f hf
          rw [Record.finds_cons, readFrom]
          split
          next hmany =>
            rcases hread.cases_many hmany with hvalues | ⟨items, hvalues, hitems⟩
            · simp [hvalues, Value.leaves, hvalue]
            · simp only [hvalues, Value.list.injEq, exists_eq_left', Value.mem_leaves_records]
              refine exists_congr fun inner => and_congr_right fun hmem => ?_
              exact ih hrest (Filter.shapes_of_record (hitems _ hmem) hnested)
          next hsingle =>
            have hnolist := hread.not_list (by simpa using hsingle)
            cases hvalues : r.read f.name with
            | record inner =>
                rw [hvalues] at hread
                simpa using ih hrest (Filter.shapes_of_record hread hnested)
            | list items => exact absurd hvalues (hnolist items)
            | _ => simp [Value.leaves, hvalue]

end Path

/-! ### Clauses -/

/-- Null, or a set that holds null: what an absent value may equal. -/
def Operand.admitsNull : Operand → Bool
  | null => true
  | set items => items.any isNull
  | _ => false

/-- All operators but the negated one and those that put absent values last. -/
def Op.positive : List Op :=
  [.eq, .isIn, .startsWith, .endsWith, .contains, .regex, .gt, .gte, .lt, .lte]

namespace Clause

theorem equals_absent {operand : Operand} (h : operand.isNull = false) (ignoreCase : Bool) :
    equals ignoreCase operand .absent = false := by
  cases operand with
  | null => cases h
  | _ => rfl

theorem equals_record (operand : Operand) (ignoreCase : Bool) (r : Record) :
    equals ignoreCase operand (.record r) = false := by
  cases operand <;> rfl

variable {clause : Clause}

theorem holds_absent (hop : clause.op ∈ Op.positive) (hnull : clause.operand.admitsNull = false) :
    clause.holds .absent = false := by
  obtain ⟨field, op, operand, ignoreCase⟩ := clause
  have hsingle : operand.isNull = false := by
    cases operand with
    | null => cases hnull
    | _ => rfl
  cases op with
  | eq => exact equals_absent hsingle ignoreCase
  | isIn =>
      cases operand with
      | set items =>
          refine List.any_eq_false.mpr fun item hitem => ?_
          have hitem := List.any_eq_false.mp hnull item hitem
          simp [equals_absent (by simpa using hitem)]
      | _ => exact equals_absent hsingle ignoreCase
  | ne | before | after => simp [Op.positive] at hop
  | _ => rfl

theorem holds_record (hop : clause.op ∈ Op.positive) (r : Record) :
    clause.holds (.record r) = false := by
  obtain ⟨field, op, operand, ignoreCase⟩ := clause
  cases op with
  | eq => exact equals_record operand ignoreCase r
  | isIn =>
      cases operand with
      | set items =>
          refine List.any_eq_false.mpr fun item _ => ?_
          simp [equals_record]
      | _ => rfl
  | ne | before | after => simp [Op.positive] at hop
  | gt | gte | lt | lte | contains | startsWith | endsWith | regex => cases operand <;> rfl

end Clause

/-- **A filter at a path agrees with the values that the path reads.** In a record of the declared
shape, a clause at a resolved path holds exactly if it holds of one of the values in the nested lists
that reading the path gives. -/
theorem Filter.accepts_atPath_iff_leaf {schema : Schema} {text : String} {path : Path}
    (hpath : schema.resolve? text = Option.some path) {r : Record} (hr : schema.Shapes r)
    {clause : Clause} (hop : clause.op ∈ Op.positive)
    (hnull : clause.operand.admitsNull = false) :
    (atPath path clause.op clause.operand clause.ignoreCase).accepts r = true ↔
      ∃ value ∈ (path.read r).leaves, clause.holds value = true := by
  have habsent := Clause.holds_absent hop hnull
  have hread : ∀ f ∈ path.hops, ∀ r : Record, r.readPath f.name = r.read f.name :=
    fun f hf => Record.readPath_name (Schema.resolve?_undotted hpath f hf)
  rw [accepts_atPath habsent (Clause.holds_record hop)]
  simp only [Record.finds_congr hread]
  refine exists_congr fun value => and_congr_left fun hvalue => ?_
  refine Path.finds_iff_mem_leaves hpath hr ?_
  rintro rfl
  exact Bool.false_ne_true (habsent.symm.trans hvalue)

namespace Article

/-- One of two reviewers is known, and she is Eve. -/
theorem reviewed_by_eve : ∃ path, schema.resolve? "Reviewers.Name" = some path ∧
    schema.Shapes (ofAuthor .absent) ∧
      (path.read (ofAuthor .absent)).leaves = [.text "Eve"] ∧
        (Filter.atPath path .eq (.text "Eve") false).accepts (ofAuthor .absent) = true := by
  have hpath : schema.resolve? "Reviewers.Name" = some ⟨[reviewers], name⟩ := by decide +kernel
  have hshapes : schema.Shapes (ofAuthor .absent) := shapes .absent
  have heq : (Clause.mk none .eq (.text "Eve") false).op ∈ Op.positive := by decide
  refine ⟨_, hpath, hshapes, rfl, ?_⟩
  exact (Filter.accepts_atPath_iff_leaf hpath hshapes heq rfl).mpr ⟨.text "Eve", .head _, rfl⟩

end Article

end RecordQuery
