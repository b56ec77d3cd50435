import RecordQuery.Proofs.Neighbors

/-!
# Places of pages

A row that stands in the list splits it in two, so the page after the row begins at the next place
and the page before it ends there.
-/

namespace RecordQuery

namespace Listing

variable {α : Type} [Queryable α]

/-- The page of the rows from a place on. -/
def pageAt (l : Listing) (rows : List α) (i : Nat) : Page α :=
  l.shown ((l.sorted rows).take i) (((l.sorted rows).drop i).take l.size)
    ((l.sorted rows).drop (i + l.size))

section Place

variable {l : Listing} {rows : List α} {i : Nat} {row : α}

theorem sorted_eq_of_getElem? (h : (l.sorted rows)[i]? = some row) :
    l.sorted rows = (l.sorted rows).take i ++ row :: (l.sorted rows).drop (i + 1) := by
  obtain ⟨hi, hrow⟩ := List.getElem?_eq_some_iff.mp h
  rw [← hrow, ← List.drop_eq_getElem_cons hi, List.take_append_drop]

theorem pageAt_after (hl : l.Sound)
    (h : (l.sorted rows)[i + l.size - 1]? = some row)
    (hnext : i + l.size < (l.sorted rows).length) :
    (l.pageAt rows i).paging.after = some (l.mark row) := by
  have hsize := hl.size
  have hlast : (((l.sorted rows).drop i).take l.size).getLast? = some row := by
    rw [List.getLast?_take, if_neg (by omega), List.getElem?_drop, ← Nat.add_sub_assoc hsize, h]
    rfl
  have hbelow : ((l.sorted rows).drop (i + l.size)).isEmpty = false := by
    rw [List.isEmpty_eq_false_iff, Ne, List.drop_eq_nil_iff]
    omega
  simp only [pageAt, shown, Paging.keyset, hbelow, hlast]
  rfl

theorem pageAt_after_eq_none (hnext : (l.sorted rows).length ≤ i + l.size) :
    (l.pageAt rows i).paging.after = none := by
  have hbelow : ((l.sorted rows).drop (i + l.size)).isEmpty = true := by
    rw [List.isEmpty_iff, List.drop_eq_nil_iff]
    exact hnext
  simp only [pageAt, shown, Paging.keyset, hbelow]
  rfl

theorem pageAt_before (hl : l.Sound) (h : (l.sorted rows)[i]? = some row) (hi : 0 < i) :
    (l.pageAt rows i).paging.before = some (l.mark row) := by
  have hsize := hl.size
  obtain ⟨hlt, hrow⟩ := List.getElem?_eq_some_iff.mp h
  have hfirst : (((l.sorted rows).drop i).take l.size).head? = some row := by
    rw [List.head?_take, if_neg (by omega), List.head?_drop, h]
  have habove : ((l.sorted rows).take i).isEmpty = false := by
    rw [List.isEmpty_eq_false_iff, Ne, List.take_eq_nil_iff, not_or]
    exact ⟨by omega, List.ne_nil_of_length_pos (by omega)⟩
  simp only [pageAt, shown, Paging.keyset, habove, hfirst]
  rfl

theorem pageAt_zero_before : (l.pageAt rows 0).paging.before = none := by
  simp [pageAt, shown, Paging.keyset]

variable (hl : l.Sound) (hcodec : l.codec.Invertible) (hrows : l.Regular rows)
  (hnamed : l.Named rows)

include hl hcodec hrows hnamed

theorem page_start_eq_pageAt (base : Fetch) :
    l.page base none none rows = .ok (l.pageAt rows 0) := by
  rw [page_start hl hcodec hrows hnamed, pageAt, List.take_zero, List.drop_zero, Nat.zero_add]

theorem page_after_eq_pageAt (hshort : l.Short rows)
    (h : (l.sorted rows)[i]? = some row) (base : Fetch) {page : Page α} :
    l.page base none (some (l.mark row)) rows = .ok page ↔
      l.Readable row ∧ l.pageAt rows (i + 1) = page := by
  have hmem := List.mem_of_getElem? h
  obtain ⟨hafter, hupTo⟩ := rows_around_last hl hrows (sorted_eq_of_getElem? h)
  rw [page_after_eq_ok hl hcodec hrows hnamed hshort hmem, hafter, hupTo, List.drop_drop,
    pageAt, List.take_add_one, h]
  rfl

theorem page_before_eq_pageAt (hshort : l.Short rows)
    (h : (l.sorted rows)[i]? = some row) (hi : l.size ≤ i) (base : Fetch) {page : Page α} :
    l.page base (some (l.mark row)) none rows = .ok page ↔
      l.Readable row ∧ l.pageAt rows (i - l.size) = page := by
  have hmem := List.mem_of_getElem? h
  obtain ⟨hlt, hget⟩ := List.getElem?_eq_some_iff.mp h
  obtain ⟨hfrom, hbefore⟩ := rows_around_first hl hrows (sorted_eq_of_getElem? h)
  have hlength : ((l.sorted rows).take i).length = i := by
    rw [List.length_take]
    omega
  rw [page_before_eq_ok hl hcodec hrows hnamed hshort hmem, hfrom, hbefore, List.rdrop,
    List.rtake, hlength, List.take_take, List.drop_take, pageAt, Nat.min_eq_left (by omega),
    Nat.sub_sub_self hi, Nat.sub_add_cancel hi]
  rw [← hget, ← List.drop_eq_getElem_cons hlt]

end Place

end Listing

end RecordQuery
