import RecordQuery.Proofs.Boundary

/-!
# Texts of sort orders

The text of a compiled order spells the order again: each key is read back from its entry, and with
the same tie-breaker the text compiles to the same order. The entries stand between commas, so the
names of the keys must not hold one. A sort cannot name such a field, but a tie-breaker can.
-/

namespace RecordQuery

theorem Text.splitOnce_eq (separator : Char) (s : String) :
    splitOnce separator s =
      if separator ∈ s.toList then
        some (String.ofList (s.toList.takeWhile (· != separator)),
          String.ofList (s.toList.dropWhile (· != separator)).tail)
      else none := by
  have hmem : separator ∈ s.toList ↔ s.toList.dropWhile (· != separator) ≠ [] := by
    rw [Ne, List.dropWhile_eq_nil_iff]
    simp
  rw [splitOnce, List.span_eq_takeWhile_dropWhile]
  simp only [hmem]
  cases s.toList.dropWhile (· != separator) <;> simp

theorem Text.splitOnce_join {separator : Char} {before : String}
    (h : separator ∉ before.toList) (after : String) :
    splitOnce separator (join (String.ofList [separator]) [before, after]) =
      some (before, after) := by
  have hnot : ∀ c ∈ before.toList, (c != separator) = true := by
    intro c hc
    rw [bne_iff_ne]
    rintro rfl
    exact h hc
  rw [splitOnce_eq]
  simp only [join, String.toList_append, String.toList_ofList, List.append_assoc,
    List.takeWhile_append_of_pos hnot, List.dropWhile_append_of_pos hnot]
  simp

theorem Direction.ofToken_name (dir : Direction) : ofToken dir.name = .ok dir := by
  cases dir <;> rfl

/-- The entry of a key in the text of an order. -/
def SortKey.entry (key : SortKey) : String :=
  Text.join ":" [key.path.text, key.dir.name]

namespace SortOrder

theorem text_eq (order : SortOrder) : order.text = Text.join "," (order.keys.map SortKey.entry) :=
  rfl

/-! ### Entries -/

section Entry

variable {schema : Schema} {key : SortKey} {entry : String}

/-- The path of an entry stands in the entry, before any colon. -/
theorem of_mem_path {text : String} {dir : Direction} (h : splitEntry entry = .ok (text, dir))
    {c : Char} (hc : c ∈ text.toList) : c ∈ entry.toList ∧ c ≠ ':' := by
  rw [splitEntry, Text.splitOnce_eq] at h
  by_cases hcolon : ':' ∈ entry.toList
  · rw [if_pos hcolon] at h
    obtain ⟨d, -, hpair⟩ := map_eq_ok.mp h
    obtain ⟨rfl, -⟩ := Prod.mk.inj hpair
    have hc := Text.mem_of_mem_trim hc
    rw [String.toList_ofList] at hc
    exact ⟨(List.takeWhile_sublist _).subset hc, by simpa using List.mem_takeWhile_imp hc⟩
  · rw [if_neg hcolon] at h
    obtain ⟨rfl, -⟩ := Prod.mk.inj (Except.ok.inj h)
    have hc := Text.mem_of_mem_trim hc
    refine ⟨hc, ?_⟩
    rintro rfl
    exact hcolon hc

theorem trimmed_path (h : readKey schema entry = .ok key) :
    Text.Trimmed key.path.text.toList := by
  obtain ⟨text, -, hpath, -⟩ := readKey_eq_ok.mp h
  refine Text.trimmed_join rfl fun name hname => ?_
  obtain ⟨hop, hhop, rfl⟩ := List.mem_map.mp hname
  exact Schema.resolve?_trimmed hpath hhop

theorem trimmed_entry (h : readKey schema entry = .ok key) :
    Text.Trimmed key.entry.toList := by
  refine Text.trimmed_join rfl fun part hpart => ?_
  rcases List.mem_pair.mp hpart with rfl | rfl
  · exact trimmed_path h
  · cases key.dir <;> exact ⟨by rintro c ⟨⟩; rfl, by rintro c ⟨⟩; rfl⟩

theorem colon_notMem_text (h : readKey schema entry = .ok key) : ':' ∉ key.path.text.toList := by
  obtain ⟨text, hentry, hpath, -⟩ := readKey_eq_ok.mp h
  exact fun hmem =>
    (of_mem_path hentry (Schema.mem_of_mem_text hpath hmem rfl (by decide))).2 rfl

/-- **A key is read back from its entry.** -/
theorem readKey_entry (h : readKey schema entry = .ok key) :
    readKey schema key.entry = .ok key := by
  obtain ⟨text, -, hpath, hsortable⟩ := readKey_eq_ok.mp h
  refine readKey_eq_ok.mpr ⟨key.path.text, ?_, Schema.resolve?_text hpath, hsortable⟩
  have hsplit : Text.splitOnce ':' key.entry = some (key.path.text, key.dir.name) :=
    Text.splitOnce_join (colon_notMem_text h) key.dir.name
  rw [splitEntry, hsplit]
  dsimp only
  rw [Direction.ofToken_name, (trimmed_path h).trim_eq]
  rfl

end Entry

/-! ### Orders -/

/-- No key has a comma in its text. -/
def Plain (order : SortOrder) : Prop :=
  ∀ key ∈ order.keys, ',' ∉ key.path.text.toList

theorem addKey_of_notMem {keys : List SortKey} {key : SortKey}
    (h : key.path.text ∉ keys.map fun k => k.path.text) : addKey keys key = keys ++ [key] := by
  rw [addKey, if_pos]
  rw [List.all_eq_true]
  intro k hk
  rw [bne_iff_ne]
  intro heq
  exact h (List.mem_map.mpr ⟨k, hk, heq⟩)

theorem addKey_of_mem {keys : List SortKey} {key : SortKey}
    (h : key.path.text ∈ keys.map fun k => k.path.text) : addKey keys key = keys := by
  obtain ⟨k, hk, heq⟩ := List.mem_map.mp h
  rw [addKey, if_neg]
  intro hall
  exact bne_iff_ne.mp (List.all_eq_true.mp hall k hk) heq

theorem readKeys_entry {schema : Schema} {before keys : List SortKey}
    (hread : ∀ key ∈ keys, readKey schema key.entry = .ok key)
    (hdistinct : ((before ++ keys).map fun key => key.path.text).Nodup) :
    readKeys schema before (keys.map SortKey.entry) = .ok (before ++ keys) := by
  induction keys generalizing before with
  | nil => simp [readKeys]
  | cons key keys ih =>
      have hnew : key.path.text ∉ before.map fun k => k.path.text := by
        rw [List.map_append, List.nodup_append] at hdistinct
        intro hmem
        exact hdistinct.2.2 _ hmem _ (by simp) rfl
      have hrest : readKeys schema (before ++ [key]) (keys.map SortKey.entry) = _ :=
        ih (fun k hk => hread k (by simp [hk])) (by simpa using hdistinct)
      rw [List.map_cons, readKeys, hread key (by simp)]
      change readKeys schema (addKey before key) _ = _
      rw [addKey_of_notMem hnew, hrest, List.append_assoc, List.singleton_append]

theorem entry_ne_empty (key : SortKey) : key.entry ≠ "" := by
  intro h
  have hlength := congrArg (fun s => s.toList.length) h
  simp [SortKey.entry, Text.join] at hlength

theorem comma_notMem_entry {key : SortKey} (h : ',' ∉ key.path.text.toList) :
    ',' ∉ key.entry.toList := by
  intro hmem
  rcases Text.mem_join hmem with hmem | ⟨part, hpart, hmem⟩
  · simp at hmem
  · rcases List.mem_pair.mp hpart with rfl | rfl
    · exact h hmem
    · cases hdir : key.dir <;> simp [hdir, Direction.name] at hmem

theorem entries_text {schema : Schema} {order : SortOrder} (hplain : order.Plain)
    (hread : ∀ key ∈ order.keys, ∃ entry, readKey schema entry = .ok key) :
    entries order.text = order.keys.map SortKey.entry := by
  cases hkeys : order.keys with
  | nil =>
      rw [text_eq, hkeys]
      rfl
  | cons key keys =>
      have hsplit : Text.split ',' order.text = order.keys.map SortKey.entry := by
        refine Text.split_join (by simp [hkeys]) fun part hpart => ?_
        obtain ⟨k, hk, rfl⟩ := List.mem_map.mp hpart
        exact comma_notMem_entry (hplain k hk)
      have htrim : (order.keys.map SortKey.entry).map Text.trim = order.keys.map SortKey.entry := by
        rw [List.map_map]
        refine List.map_congr_left fun k hk => ?_
        obtain ⟨entry, hentry⟩ := hread k hk
        exact (trimmed_entry hentry).trim_eq
      rw [entries, hsplit, htrim, ← hkeys, List.filter_eq_self]
      intro part hpart
      obtain ⟨k, -, rfl⟩ := List.mem_map.mp hpart
      simpa using entry_ne_empty k

theorem exists_readKey {schema : Schema} {text : String} {tieBreaker : Option String}
    {order : SortOrder} (h : compile schema text tieBreaker = .ok order) :
    ∀ key ∈ order.keys, ∃ entry, readKey schema entry = .ok key := by
  intro key hkey
  obtain ⟨entry, -, hentry⟩ := compile_origin h key hkey
  exact ⟨entry, hentry⟩

/-- The keys of a compiled order are read from its text. -/
theorem readKeys_text {schema : Schema} {text : String} {tieBreaker : Option String}
    {order : SortOrder} (h : compile schema text tieBreaker = .ok order) (hplain : order.Plain) :
    readKeys schema [] (entries order.text) = .ok order.keys := by
  have hagain : ∀ key ∈ order.keys, readKey schema key.entry = .ok key := by
    intro key hkey
    obtain ⟨entry, hentry⟩ := exists_readKey h key hkey
    exact readKey_entry hentry
  rw [entries_text hplain (exists_readKey h)]
  exact readKeys_entry hagain (wellFormed_of_compile h).distinct

/-- **The text of a compiled order compiles to the order again**, with the same tie-breaker. -/
theorem compile_text {schema : Schema} {text : String} {tieBreaker : Option String}
    {order : SortOrder} (h : compile schema text tieBreaker = .ok order) (hplain : order.Plain) :
    compile schema order.text tieBreaker = .ok order := by
  refine compile_eq_ok.mpr ⟨order.keys, readKeys_text h hplain, ?_⟩
  obtain ⟨keys, -, ⟨hnone, rfl⟩ | ⟨tie, last, htie, hlast, rfl⟩⟩ := compile_eq_ok.mp h
  · exact Or.inl ⟨hnone, rfl⟩
  · refine Or.inr ⟨tie, last, htie, hlast, ?_⟩
    obtain ⟨k, hk, heq⟩ := exists_mem_addKey keys last
    have hmem : last.path.text ∈ (addKey keys last).map fun k => k.path.text :=
      List.mem_map.mpr ⟨k, hk, heq⟩
    rw [addKey_of_mem hmem]

/-- A comma in the name of the tie-breaker splits the text of its order. -/
example : compile ⟨[], ⟨"Tag", [⟨"x,y", .number, false, false, none⟩]⟩⟩ "x,y:asc" (some "x,y") =
    .error (.fieldNotFound "x") := by
  cbv

/-- A tie-breaker without a comma leaves the order without commas. -/
theorem plain_of_compile {schema : Schema} {text : String} {tieBreaker : Option String}
    {order : SortOrder} (h : compile schema text tieBreaker = .ok order)
    (htie : ∀ tie ∈ tieBreaker, ',' ∉ tie.toList) : order.Plain := by
  intro key hkey hmem
  obtain ⟨entry, horigin, hread⟩ := compile_origin h key hkey
  obtain ⟨path, hentry, hpath, -⟩ := readKey_eq_ok.mp hread
  have hcomma : ',' ∈ entry.toList :=
    (of_mem_path hentry (Schema.mem_of_mem_text hpath hmem rfl (by decide))).1
  rcases horigin with hentries | heffective
  · obtain ⟨part, hpart, rfl⟩ := List.mem_map.mp (List.mem_of_mem_filter hentries)
    exact (Text.of_mem_split hpart (Text.mem_of_mem_trim hcomma)).2 rfl
  · obtain ⟨hmap, -⟩ := Option.filter_eq_some_iff.mp heffective
    obtain ⟨tie, htext, rfl⟩ := Option.map_eq_some_iff.mp hmap
    exact htie tie htext (Text.mem_of_mem_trim hcomma)

end SortOrder

end RecordQuery
