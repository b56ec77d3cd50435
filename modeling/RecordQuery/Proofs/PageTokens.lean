import RecordQuery.Proofs.CompleteWalk
import RecordQuery.Proofs.PageEnds

/-!
# The tokens of a page

A page has the tokens of its own first and last row. Whether the listing takes such a token back is
a matter of the row alone: its timestamps have to be read back, and its token has to be short enough
for the decoder, which is something that the encoder never asks.
-/

namespace RecordQuery

/-! ### Requests with a token -/

namespace Listing

/-- A request before the token and a request after it are both well formed. -/
def Accepts (l : Listing) (token : String) : Prop :=
  (∃ pager, KeysetPager.create l.filter l.order l.size (some token) none l.codec = .ok pager) ∧
    ∃ pager, KeysetPager.create l.filter l.order l.size none (some token) l.codec = .ok pager

/-- Both requests fail, for a malformed cursor. -/
def Refuses (l : Listing) (token : String) : Prop :=
  (∃ fault, KeysetPager.create l.filter l.order l.size (some token) none l.codec =
      .error (.malformedCursor fault)) ∧
    ∃ fault, KeysetPager.create l.filter l.order l.size none (some token) l.codec =
      .error (.malformedCursor fault)

section Token

variable {l : Listing} {token : String} (hl : l.Sound) (hblank : Text.isBlank token = false)

include hl hblank

theorem create_of_token :
    KeysetPager.create l.filter l.order l.size (some token) none l.codec =
        (l.codec.boundary token l.order).map (fun boundary => l.pager (.before boundary)) ∧
      KeysetPager.create l.filter l.order l.size none (some token) l.codec =
        (l.codec.boundary token l.order).map fun boundary => l.pager (.after boundary) := by
  have htoken : KeysetPager.effectiveToken (some token) = some token := by
    rw [KeysetPager.effectiveToken, Option.filter_some, hblank]
    rfl
  have hnone : KeysetPager.effectiveToken none = none := rfl
  rw [create_eq hl, create_eq hl, spot, spot, htoken, hnone]
  dsimp only
  cases l.codec.boundary token l.order with
  | error error => exact ⟨rfl, rfl⟩
  | ok boundary => exact ⟨rfl, rfl⟩

theorem accepts_iff :
    l.Accepts token ↔ ∃ boundary, l.codec.boundary token l.order = .ok boundary := by
  obtain ⟨hbefore, hafter⟩ := create_of_token hl hblank
  unfold Accepts
  rw [hbefore, hafter]
  constructor
  · rintro ⟨⟨pager, hpager⟩, -⟩
    obtain ⟨boundary, hboundary, -⟩ := map_eq_ok.mp hpager
    exact ⟨boundary, hboundary⟩
  · rintro ⟨boundary, hboundary⟩
    rw [hboundary]
    exact ⟨⟨_, rfl⟩, _, rfl⟩

theorem refuses_iff : l.Refuses token ↔ ¬l.Accepts token := by
  obtain ⟨hbefore, hafter⟩ := create_of_token hl hblank
  have hmalformed := l.codec.malformed_boundary token l.order
  rw [accepts_iff hl hblank]
  unfold Refuses
  rw [hbefore, hafter]
  cases hboundary : l.codec.boundary token l.order with
  | error error =>
      obtain ⟨fault, rfl⟩ := hmalformed error hboundary
      constructor
      · rintro - ⟨boundary, h⟩
        cases h
      · intro _
        exact ⟨⟨fault, rfl⟩, fault, rfl⟩
  | ok boundary =>
      constructor
      · rintro ⟨⟨fault, h⟩, -⟩
        cases h
      · intro h
        exact absurd ⟨boundary, rfl⟩ h

end Token

/-! ### The tokens that pages hand out -/

variable {α : Type} [Queryable α] {l : Listing} {rows : List α}

theorem sound_of_page (horder : l.order.WellFormed) {base : Fetch} {before after : Option String}
    {page : Page α} (hpage : l.page base before after rows = .ok page) : l.Sound := by
  rw [Listing.page] at hpage
  cases hcreate : KeysetPager.create l.filter l.order l.size before after l.codec with
  | error error =>
      rw [hcreate] at hpage
      cases hpage
  | ok pager =>
      obtain ⟨hsize, htie, -⟩ := KeysetPager.create_eq_ok.mp hcreate
      exact ⟨horder, htie, Nat.one_le_iff_ne_zero.mpr hsize⟩

/-- **The tokens of a page** are those of its first and its last row. -/
theorem tokens_of_page (hl : l.Sound) {base : Fetch} {before after : Option String}
    {page : Page α} (hpage : l.page base before after rows = .ok page) :
    (∀ token ∈ page.paging.before,
      ∃ row ∈ l.matching rows, page.data.head? = some row ∧ l.token row = .ok token) ∧
    ∀ token ∈ page.paging.after,
      ∃ row ∈ l.matching rows, page.data.getLast? = some row ∧ l.token row = .ok token := by
  rw [page_eq hl] at hpage
  cases hspot : l.spot before after with
  | error error =>
      rw [hspot] at hpage
      cases hpage
  | ok spot =>
      rw [hspot] at hpage
      dsimp only at hpage
      by_cases hnil : l.sorted rows = []
      · -- an empty page has no tokens
        rw [run_of_sorted_eq_nil spot base hnil] at hpage
        cases hpage
        constructor
        · intro token htoken
          cases htoken
        · intro token htoken
          cases htoken
      · rw [run_eq_ends l spot base hnil] at hpage
        obtain ⟨hprevious, hnext, hdata, -⟩ := ends_eq_ok.mp hpage
        rw [hdata]
        constructor
        · intro token htoken
          rw [Option.mem_def.mp htoken] at hprevious
          obtain ⟨row, hrow, -, -, -, hrowToken⟩ := previous_eq_some l hprevious
          have hmem := mem_of_mem_answer (List.mem_of_mem_head? hrow)
          exact ⟨row, mem_sorted.mp hmem, hrow, hrowToken⟩
        · intro token htoken
          rw [Option.mem_def.mp htoken] at hnext
          obtain ⟨row, hrow, -, -, hrowToken⟩ := next_eq_some l hnext
          have hmem := mem_of_mem_answer (List.mem_of_getLast? hrow)
          exact ⟨row, mem_sorted.mp hmem, hrow, hrowToken⟩

theorem accepts_token_iff (hl : l.Sound) {row : α} (hrow : l.Markable row) {token : String}
    (hcarried : l.codec.Carries (.capture (Queryable.record row) l.order))
    (htoken : l.token row = .ok token) :
    (l.Accepts token ↔ l.Readable row ∧ token.utf8ByteSize ≤ Codec.tokenLimit) ∧
      (l.Refuses token ↔ ¬(l.Readable row ∧ token.utf8ByteSize ≤ Codec.tokenLimit)) := by
  have hblank := (Codec.decode_token hcarried hl.wellFormed hrow.fits htoken).1
  have haccepts : l.Accepts token ↔ l.Readable row ∧ token.utf8ByteSize ≤ Codec.tokenLimit := by
    rw [accepts_iff hl hblank]
    exact Codec.exists_boundary_iff hcarried hl.wellFormed hrow.fits hrow.named htoken
  exact ⟨haccepts, by rw [refuses_iff hl hblank, haccepts]⟩

/-- **Which tokens of a page are accepted.** Whatever request led to the page, a token on it is the
token of its first or last row, and the same listing accepts it exactly when the timestamps among
the keys of the row are read back and the token has at most the greatest length. Any other token of
a page is refused as malformed. -/
theorem page_tokens_accepted_iff {schema : Schema} {sort : String} {tie : Option String}
    (hcompile : SortOrder.compile schema sort tie = .ok l.order)
    (hfits : ∀ row ∈ l.matching rows, l.order.Fits (Queryable.record row))
    (hnamed : l.Named rows) (hcodec : l.codec.Faithful) {base : Fetch}
    {before after : Option String} {page : Page α}
    (hpage : l.page base before after rows = .ok page) :
    (∀ token ∈ page.paging.before, ∃ first ∈ l.matching rows,
      page.data.head? = some first ∧ l.token first = .ok token ∧
      (l.Accepts token ↔ l.Readable first ∧ token.utf8ByteSize ≤ Codec.tokenLimit) ∧
      (l.Refuses token ↔ ¬(l.Readable first ∧ token.utf8ByteSize ≤ Codec.tokenLimit))) ∧
    ∀ token ∈ page.paging.after, ∃ last ∈ l.matching rows,
      page.data.getLast? = some last ∧ l.token last = .ok token ∧
      (l.Accepts token ↔ l.Readable last ∧ token.utf8ByteSize ≤ Codec.tokenLimit) ∧
      (l.Refuses token ↔ ¬(l.Readable last ∧ token.utf8ByteSize ≤ Codec.tokenLimit)) := by
  have hl := sound_of_page (SortOrder.wellFormed_of_compile hcompile) hpage
  obtain ⟨hbefore, hafter⟩ := tokens_of_page hl hpage
  have hfate : ∀ row ∈ l.matching rows, ∀ token, l.token row = .ok token → _ :=
    fun row hrow token htoken => accepts_token_iff hl ⟨hfits row hrow, hnamed row hrow⟩
      (hcodec.carries htoken) htoken
  constructor
  · intro token htoken
    obtain ⟨first, hmem, hfirst, hfirstToken⟩ := hbefore token htoken
    exact ⟨first, hmem, hfirst, hfirstToken, hfate first hmem token hfirstToken⟩
  · intro token htoken
    obtain ⟨last, hmem, hlast, hlastToken⟩ := hafter token htoken
    exact ⟨last, hmem, hlast, hlastToken, hfate last hmem token hlastToken⟩

/-- If no row's token is taken back, the first of several pages leads nowhere. -/
theorem exists_refused (hl : l.Sound) (hcodec : l.codec.Invertible) (hrows : l.Regular rows)
    (hnamed : l.Named rows) (hmore : l.size < (l.matching rows).length)
    (hbad : ∀ row ∈ l.matching rows,
      ¬(l.Readable row ∧ (l.mark row).utf8ByteSize ≤ Codec.tokenLimit)) (base : Fetch) :
    ∃ page token, l.page base none none rows = .ok page ∧ page.paging.after = some token ∧
      l.Refuses token := by
  have hlength := (l.sorted_perm rows).length_eq
  have hbelow : ((l.sorted rows).drop l.size).isEmpty = false := by
    rw [List.isEmpty_eq_false_iff, ← List.length_pos_iff, List.length_drop]
    omega
  have hwindow : (l.sorted rows).take l.size ≠ [] := by
    rw [← List.length_pos_iff, List.length_take]
    have hsize := hl.size
    omega
  obtain ⟨front, row, hfront⟩ := (List.eq_nil_or_concat' _).resolve_left hwindow
  have hmem : row ∈ l.sorted rows := List.mem_of_mem_take (by rw [hfront]; simp)
  have hrow := markable_of_mem_sorted hrows hnamed hmem
  refine ⟨_, l.mark row, page_start hl hcodec hrows hnamed base, ?_, ?_⟩
  · change (if ((l.sorted rows).drop l.size).isEmpty then none
      else ((l.sorted rows).take l.size).getLast?.map l.mark) = _
    rw [hbelow, hfront, List.getLast?_concat]
    rfl
  · apply (accepts_token_iff hl hrow (hcodec.carries _) (token_eq_mark hl hcodec hrow)).2.mpr
    exact hbad row (mem_sorted.mp hmem)

end Listing

/-! ### Long keys -/

namespace Json

theorem length_le_flatMap_escapeChar (cs : List Char) :
    cs.length ≤ (cs.flatMap escapeChar).length := by
  induction cs with
  | nil => exact Nat.le_refl 0
  | cons c cs ih =>
      have hc : 1 ≤ (escapeChar c).length := by
        unfold escapeChar
        repeat' split
        all_goals simp
      rw [List.flatMap_cons, List.length_append, List.length_cons]
      omega

theorem length_lt_writeText (s : String) : s.length < (writeText s).length := by
  have hescape := length_le_flatMap_escapeChar s.toList
  rw [String.length_toList] at hescape
  rw [writeText, List.length_append, List.length_cons]
  omega

theorem length_lt_writeMembers {members : List (String × Json)} {path s : String}
    (h : (path, .text s) ∈ members) : s.length < (writeMembers members).length := by
  have htext := length_lt_writeText s
  induction members with
  | nil => cases h
  | cons member members ih =>
      obtain ⟨key, value⟩ := member
      have hhead : (path, .text s) = (key, value) → s.length < (write value).length := by
        rintro ⟨⟩
        exact htext
      cases members with
      | nil =>
          rw [writeMembers, List.length_append, List.length_cons]
          have hvalue := hhead (List.mem_singleton.mp h)
          omega
      | cons next members =>
          have hwrite : writeMembers ((key, value) :: next :: members) =
              writeText key ++ ':' :: (write value ++ ',' :: writeMembers (next :: members)) := by
            rw [writeMembers]
            simp
          rw [hwrite, List.length_append, List.length_cons, List.length_append, List.length_cons]
          rcases List.mem_cons.mp h with h | h
          · have hvalue := hhead h
            omega
          · have hrest := ih h
            omega

end Json

/-- Without layers, a token has four bytes for three characters of a text in its cursor. -/
theorem Codec.length_lt_token {codec : Codec} (hlayers : codec.layers = []) {cursor : Cursor}
    {path s : String} (hmem : (path, .text s) ∈ cursor.values) {token : String}
    (htoken : codec.encode cursor = .ok token) : 4 * s.length < 3 * token.utf8ByteSize := by
  rw [encode, hlayers] at htoken
  obtain rfl := Except.ok.inj htoken
  have hpayload : s.length < (bytes cursor.toJson.render).length := calc
    s.length < (Json.writeMembers cursor.values).length := Json.length_lt_writeMembers hmem
    _ ≤ (Json.write cursor.toJson).length := by
      rw [Cursor.toJson, Json.write, List.length_cons, List.length_append]
      omega
    _ ≤ cursor.toJson.render.utf8ByteSize := length_le_utf8ByteSize _
    _ = (bytes cursor.toJson.render).length := (length_bytes _).symm
  have htoken := length_le_utf8ByteSize (Text.Base64.encode (bytes cursor.toJson.render))
  rw [Text.Base64.length_encode] at htoken
  omega

theorem Listing.tokenLimit_lt_of_long {α : Type} [Queryable α] {l : Listing} (hl : l.Sound)
    (hlayers : l.codec.layers = []) {row : α} {key : SortKey} (hkey : key ∈ l.order.keys)
    {s : String} (hread : key.path.read (Queryable.record row) = .text s)
    (hlong : 12288 ≤ s.length) {token : String} (htoken : l.token row = .ok token) :
    Codec.tokenLimit < token.utf8ByteSize := by
  have hmem : (key.path.text, .text s) ∈
      (Cursor.capture (Queryable.record row) l.order).values := by
    apply (Cursor.capture_perm hl.wellFormed).mem_iff.mpr
    exact List.mem_map.mpr ⟨key, hkey, by rw [hread, Cursor.ofValue]⟩
  have hlength := Codec.length_lt_token hlayers hmem htoken
  unfold Codec.tokenLimit
  omega

/-! ### Events and notes -/

namespace Event

theorem faithful : listing.codec.Faithful := by
  intro layer hlayer
  cases hlayer

/-- The first page of two events goes on with a token that is accepted. -/
theorem page_token_accepted :
    ∃ page, listing.page fetch none none pair = .ok page ∧
      ∃ token ∈ page.paging.after, listing.Accepts token := by
  have hafter : (listing.page fetch none none pair).toOption.map
      (fun page => page.paging.after == some token) = some true := by decide +kernel
  obtain ⟨page, hpage, hafter⟩ := toOption_map_eq_some.mp hafter
  have hafter : token ∈ page.paging.after := by simpa using hafter
  obtain ⟨-, htokens⟩ := Listing.page_tokens_accepted_iff compile_order (fun e _ => fits e)
    (named pair) faithful hpage
  obtain ⟨last, hlast, -, -, haccepts, -⟩ := htokens token hafter
  have hreadable := readable_of_mem
    (by decide +kernel : ∀ e ∈ pair, (Timestamp.mk e.time).Readable) last hlast
  exact ⟨page, hpage, token, hafter, haccepts.mpr ⟨hreadable, by decide +kernel⟩⟩

end Event

/-- A row with a key of any length. -/
structure Note where
  id : Int64
  text : String

namespace Note

def record (n : Note) : Record :=
  [("id", .number (.signed n.id)), ("text", .text n.text)]

instance : Queryable Note := ⟨record⟩

def idField : Field where
  name := "id"
  kind := .number

def textField : Field where
  name := "text"
  kind := .text

def schema : Schema := ⟨[], ⟨"Note", [idField, textField]⟩⟩

/-- All notes in the order of their texts, one on each page. -/
def listing : Listing :=
  ⟨.all [], ⟨[⟨⟨[], textField⟩, .asc⟩, ⟨⟨[], idField⟩, .asc⟩], some "id"⟩, 1, ⟨[]⟩⟩

theorem compile_order : SortOrder.compile schema "text" (some "id") = .ok listing.order := by
  cbv

theorem mem_keys {key : SortKey} (hkey : key ∈ listing.order.keys) :
    key = ⟨⟨[], textField⟩, .asc⟩ ∨ key = ⟨⟨[], idField⟩, .asc⟩ := by
  simpa [listing] using hkey

theorem matching_eq (rows : List Note) : listing.matching rows = rows :=
  List.filter_eq_self.mpr fun _ _ => rfl

theorem markable (n : Note) : listing.Markable n := by
  constructor
  · intro key hkey
    rcases mem_keys hkey with rfl | rfl
    · exact .text _
    · exact .signed _
  · intro key hkey variants index hkind
    rcases mem_keys hkey with rfl | rfl
    · cases hkind
    · cases hkind

theorem regular {rows : List Note} (h : (rows.map id).Nodup) : listing.Regular rows := by
  apply Listing.regular_of_numbers id
  · exact fun n _ => (markable n).fits
  · intro key hkey htie n
    rcases mem_keys hkey with rfl | rfl
    · exact absurd (Option.some.inj htie) (by decide)
    · rfl
  · rwa [matching_eq]

def long : List Note :=
  [⟨1, String.ofList (List.replicate 12288 'a')⟩, ⟨2, String.ofList (List.replicate 12288 'a')⟩]

theorem invertible : listing.codec.Invertible := by
  intro layer hlayer
  cases hlayer

theorem long_refused (base : Fetch) :
    ∃ page token, listing.page base none none long = .ok page ∧
      page.paging.after = some token ∧ listing.Refuses token := by
  have hl := Listing.sound_of_compile compile_order rfl (by decide : 1 ≤ listing.size)
  refine Listing.exists_refused hl invertible (regular (by decide)) (fun n _ => (markable n).named)
    ?_ ?_ base
  · rw [matching_eq]
    decide
  · rintro n hn ⟨-, hshort⟩
    have htext : n.text.length = 12288 := by
      rw [matching_eq] at hn
      rcases List.mem_pair.mp hn with rfl | rfl
      · rw [String.length_ofList, List.length_replicate]
      · rw [String.length_ofList, List.length_replicate]
    have hread : (⟨⟨[], textField⟩, .asc⟩ : SortKey).path.read (Queryable.record n) =
        .text n.text := rfl
    have hlong := Listing.tokenLimit_lt_of_long hl rfl (by simp [listing]) hread
      (Nat.le_of_eq htext.symm) (Listing.token_eq_mark hl invertible (markable n))
    exact absurd hshort (Nat.not_le.mpr hlong)

end Note

/-- Two pages that go on with tokens that are refused: the time of a late event is not read back,
and the token of a long note is too long. -/
theorem Listing.page_tokens_refused :
    (Event.listing.Regular Event.late ∧ Event.listing.Named Event.late ∧
      Event.listing.codec.Invertible ∧
      ∃ page token, Event.listing.page Event.fetch none none Event.late = .ok page ∧
        page.paging.after = some token ∧ Event.listing.Refuses token) ∧
    Note.listing.Regular Note.long ∧ Note.listing.Named Note.long ∧
      Note.listing.codec.Invertible ∧
      ∃ page token, Note.listing.page Event.fetch none none Note.long = .ok page ∧
        page.paging.after = some token ∧ Note.listing.Refuses token := by
  refine ⟨⟨Event.regular (by decide), Event.named _, Event.invertible, ?_⟩,
    Note.regular (by decide), fun n _ => (Note.markable n).named, Note.invertible,
    Note.long_refused _⟩
  refine Listing.exists_refused
    (Listing.sound_of_compile Event.compile_order rfl (by decide : 1 ≤ Event.listing.size))
    Event.invertible (Event.regular (by decide)) (Event.named _) (by decide +kernel) ?_ _
  rintro e he ⟨hreadable, -⟩
  rw [Event.matching_eq] at he
  rw [Event.readable_iff] at hreadable
  have hnone : ∀ e ∈ Event.late, ¬(Timestamp.mk e.time).Readable := by decide +kernel
  exact hnone e he hreadable

end RecordQuery
