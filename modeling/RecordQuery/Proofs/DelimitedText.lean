import RecordQuery.Proofs.DecimalText
import RecordQuery.Proofs.UuidText
import RecordQuery.Text.Quoted

/-!
# Texts that end where they say

What is written one after the other can be told apart if each part shows where it ends. A word goes
on to the next break, a quoted text to its closing quote, and a list in brackets to the bracket,
with its items between separators.
-/

namespace RecordQuery

namespace Text

/-! ### Words -/

/-- The characters between words. -/
def isBreak (c : Char) : Bool :=
  [' ', '(', ')', '\x7b', '\x7d', ']', ',', '~'].contains c

structure Word (cs : List Char) : Prop where
  nonempty : cs ≠ []
  unbroken : ∀ c ∈ cs, isBreak c = false

/-- The text ends or goes on with a break. -/
def Breaks (rest : List Char) : Prop :=
  ∀ c ∈ rest.head?, isBreak c = true

@[simp] theorem breaks_nil : Breaks [] := by
  simp [Breaks]

@[simp] theorem breaks_cons {c : Char} {cs : List Char} : Breaks (c :: cs) ↔ isBreak c = true := by
  simp [Breaks]

/-- Texts without a marked character, followed by one or by nothing, can be told from what
follows. -/
theorem append_unique {marked : Char → Bool} {xs ys r s : List Char}
    (hxs : ∀ c ∈ xs, marked c = false) (hys : ∀ c ∈ ys, marked c = false)
    (hr : ∀ c ∈ r.head?, marked c = true) (hs : ∀ c ∈ s.head?, marked c = true)
    (h : xs ++ r = ys ++ s) : xs = ys ∧ r = s := by
  have htake : ∀ {zs t : List Char}, (∀ c ∈ zs, marked c = false) →
      (∀ c ∈ t.head?, marked c = true) → (zs ++ t).takeWhile (fun c => !marked c) = zs := by
    intro zs t hzs ht
    rw [List.takeWhile_append_of_pos fun c hc => by simp [hzs c hc]]
    cases t with
    | nil => simp
    | cons c cs => simp [ht c rfl]
  have hfirst : xs = ys := by rw [← htake hxs hr, h, htake hys hs]
  subst hfirst
  exact ⟨rfl, List.append_cancel_left h⟩

/-- **A word ends at the next break.** -/
theorem Word.unique {xs ys r s : List Char} (hxs : Word xs) (hys : Word ys) (hr : Breaks r)
    (hs : Breaks s) (h : xs ++ r = ys ++ s) : xs = ys ∧ r = s :=
  append_unique hxs.unbroken hys.unbroken hr hs h

/-! ### Sections -/

/-- The text ends or goes on with one of the given texts. -/
def Begins (starts : List (List Char)) (rest : List Char) : Prop :=
  rest = [] ∨ ∃ start ∈ starts, start <+: rest

theorem begins_append {starts : List (List Char)} {start : List Char} (h : start ∈ starts)
    (rest : List Char) : Begins starts (start ++ rest) :=
  Or.inr ⟨start, h, List.prefix_append start rest⟩

theorem Begins.mono {starts starts' : List (List Char)} {rest : List Char} (h : Begins starts rest)
    (hsubset : starts ⊆ starts') : Begins starts' rest :=
  h.imp_right fun ⟨start, hstart, hprefix⟩ => ⟨start, hsubset hstart, hprefix⟩

theorem Begins.head {starts : List (List Char)} {rest : List Char} (h : Begins starts rest)
    {p : Char → Prop} (hstarts : ∀ start ∈ starts, start ≠ [] ∧ ∀ c ∈ start.head?, p c) :
    ∀ c ∈ rest.head?, p c := by
  rcases h with rfl | ⟨start, hstart, more, rfl⟩
  · simp
  · obtain ⟨hne, hhead⟩ := hstarts start hstart
    rwa [List.head?_append_of_ne_nil start hne]

theorem Begins.not_prefix {starts : List (List Char)} {mark rest : List Char}
    (h : Begins starts rest) (hmark : mark ≠ [])
    (hdiffer : ∀ start ∈ starts, ¬start <+: mark ∧ ¬mark <+: start) : ¬mark <+: rest := by
  intro hprefix
  rcases h with rfl | ⟨start, hstart, hstarts⟩
  · exact hmark (List.prefix_nil.mp hprefix)
  · rcases List.prefix_or_prefix_of_prefix hstarts hprefix with h | h
    · exact (hdiffer start hstart).1 h
    · exact (hdiffer start hstart).2 h

/-- A section with its mark, or nothing. -/
def tagged {α : Type} (mark : List Char) (body : α → List Char) : Option α → List Char
  | some a => mark ++ body a
  | none => []

theorem begins_tagged {α : Type} {starts : List (List Char)} {rest : List Char}
    (h : Begins starts rest) (mark : List Char) (body : α → List Char) (a? : Option α) :
    Begins (mark :: starts) (tagged mark body a? ++ rest) := by
  cases a? with
  | none => exact h.mono (List.subset_cons_self _ _)
  | some a =>
      rw [tagged, List.append_assoc]
      exact begins_append (by simp) _

/-- **A section is there or not, and is told from what follows**, if what follows does not begin
like the mark of the section. -/
theorem tagged_unique {α β : Type} (view : α → β) {mark : List Char} {body : α → List Char}
    {starts : List (List Char)} {a? b? : Option α} {r s : List Char}
    (hbody : ∀ a ∈ a?, ∀ b ∈ b?, body a ++ r = body b ++ s → view a = view b ∧ r = s)
    (hmark : mark ≠ []) (hdiffer : ∀ start ∈ starts, ¬start <+: mark ∧ ¬mark <+: start)
    (hr : Begins starts r) (hs : Begins starts s)
    (h : tagged mark body a? ++ r = tagged mark body b? ++ s) :
    a?.map view = b?.map view ∧ r = s := by
  cases a? with
  | none =>
      cases b? with
      | none => exact ⟨rfl, h⟩
      | some b =>
          rw [tagged, tagged, List.append_assoc] at h
          exact absurd ⟨_, h.symm⟩ (hr.not_prefix hmark hdiffer)
  | some a =>
      cases b? with
      | none =>
          rw [tagged, tagged, List.append_assoc] at h
          exact absurd ⟨_, h⟩ (hs.not_prefix hmark hdiffer)
      | some b =>
          rw [tagged, tagged, List.append_assoc, List.append_assoc,
            List.append_cancel_left_eq] at h
          obtain ⟨hview, hend⟩ := hbody a rfl b rfl h
          exact ⟨congrArg some hview, hend⟩

/-! ### Lists -/

/-- **A list ends at its closing text**, and its items are told apart by their separators, if each
item shows where it ends and the separator does not begin like the closing text. -/
theorem intercalate_unique {α : Type} {text : α → List Char} {same : α → α → Prop}
    (stops : List Char → Prop) {separator : List Char} (close : List Char) {r s : List Char}
    {as bs : List α}
    (hitem : ∀ a ∈ as, ∀ b ∈ bs, ∀ x y, stops x → stops y → text a ++ x = text b ++ y →
      same a b ∧ x = y)
    (hseparator : ∀ x, stops (separator ++ x)) (hclose : ∀ x, stops (close ++ x))
    (hdiffer : ∀ x y, separator ++ x ≠ close ++ y) (has : as ≠ []) (hbs : bs ≠ [])
    (h : List.intercalate separator (as.map text) ++ (close ++ r) =
      List.intercalate separator (bs.map text) ++ (close ++ s)) :
    List.Forall₂ same as bs ∧ r = s := by
  -- where one list ends and the other goes on, the closing text meets the separator
  induction as generalizing bs with
  | nil => exact absurd rfl has
  | cons a as ih =>
      obtain ⟨b, bs, rfl⟩ := List.exists_cons_of_ne_nil hbs
      cases as with
      | nil =>
          cases bs with
          | nil =>
              simp only [List.map_cons, List.map_nil, List.intercalate_singleton] at h
              obtain ⟨hsame, hrest⟩ := hitem a (by simp) b (by simp) _ _ (hclose r) (hclose s) h
              exact ⟨.cons hsame .nil, List.append_cancel_left hrest⟩
          | cons b' bs =>
              simp only [List.map_cons, List.map_nil, List.intercalate_singleton,
                List.intercalate_cons_cons, List.append_assoc] at h
              obtain ⟨-, hrest⟩ := hitem a (by simp) b (by simp) _ _ (hclose r) (hseparator _) h
              exact absurd hrest.symm (hdiffer _ _)
      | cons a' as =>
          cases bs with
          | nil =>
              simp only [List.map_cons, List.map_nil, List.intercalate_singleton,
                List.intercalate_cons_cons, List.append_assoc] at h
              obtain ⟨-, hrest⟩ := hitem a (by simp) b (by simp) _ _ (hseparator _) (hclose s) h
              exact absurd hrest (hdiffer _ _)
          | cons b' bs =>
              simp only [List.map_cons, List.intercalate_cons_cons, List.append_assoc] at h
              obtain ⟨hsame, hrest⟩ :=
                hitem a (by simp) b (by simp) _ _ (hseparator _) (hseparator _) h
              have hitems : ∀ x ∈ a' :: as, ∀ y ∈ b' :: bs, ∀ u v, stops u → stops v →
                  text x ++ u = text y ++ v → same x y ∧ u = v :=
                fun x hx y hy => hitem x (List.mem_cons_of_mem _ hx) y (List.mem_cons_of_mem _ hy)
              obtain ⟨hothers, hend⟩ := ih hitems (by simp) (by simp)
                (by simpa only [List.map_cons] using List.append_cancel_left hrest)
              exact ⟨.cons hsame hothers, hend⟩

/-- What writes a list like a list with separators is the list with separators. -/
theorem eq_intercalate {α : Type} {text : α → List Char} {separator : List Char}
    {f : List α → List Char} (hnil : f [] = []) (hone : ∀ a, f [a] = text a)
    (hmany : ∀ a b as, f (a :: b :: as) = text a ++ (separator ++ f (b :: as))) (as : List α) :
    f as = List.intercalate separator (as.map text) := by
  match as with
  | [] => exact hnil
  | [a] => simp [hone]
  | a :: b :: as =>
      have ih := eq_intercalate hnil hone hmany (b :: as)
      simp only [hmany, ih, List.map_cons, List.intercalate_cons_cons, List.append_assoc]

theorem exists_intercalate_cons {α : Type} (text : α → List Char) (separator : List Char) (a : α)
    (as : List α) : ∃ rest, List.intercalate separator ((a :: as).map text) = text a ++ rest := by
  cases as with
  | nil => exact ⟨[], by simp⟩
  | cons a' as => exact ⟨_, by rw [List.map_cons, List.map_cons, List.intercalate_cons_cons,
      List.append_assoc]⟩

/-- **A list in brackets ends at the closing one**, also if it is empty, provided that no item
begins with it. -/
theorem bracketed_unique {α : Type} {text : α → List Char} {same : α → α → Prop}
    (stops : List Char → Prop) {separator r s : List Char} {close : Char} {as bs : List α}
    (hitem : ∀ a ∈ as, ∀ b ∈ bs, ∀ x y, stops x → stops y → text a ++ x = text b ++ y →
      same a b ∧ x = y)
    (hseparator : ∀ x, stops (separator ++ x)) (hclose : ∀ x, stops (close :: x))
    (hdiffer : ∀ x y, separator ++ x ≠ close :: y)
    (has : ∀ a ∈ as, ∀ x y, text a ++ x ≠ close :: y)
    (hbs : ∀ b ∈ bs, ∀ x y, text b ++ x ≠ close :: y)
    (h : List.intercalate separator (as.map text) ++ close :: r =
      List.intercalate separator (bs.map text) ++ close :: s) :
    List.Forall₂ same as bs ∧ r = s := by
  cases as with
  | nil =>
      cases bs with
      | nil => exact ⟨.nil, (List.cons.inj h).2⟩
      | cons b bs =>
          obtain ⟨rest, hrest⟩ := exists_intercalate_cons text separator b bs
          rw [hrest, List.append_assoc] at h
          exact absurd h.symm (hbs b (by simp) _ _)
  | cons a as =>
      cases bs with
      | nil =>
          obtain ⟨rest, hrest⟩ := exists_intercalate_cons text separator a as
          rw [hrest, List.append_assoc] at h
          exact absurd h (has a (by simp) _ _)
      | cons b bs =>
          exact intercalate_unique stops [close] hitem hseparator hclose hdiffer
            (List.cons_ne_nil _ _) (List.cons_ne_nil _ _) h

/-! ### Quoted texts -/

theorem hexFrom?_toDigits (n : Nat) : hexFrom? 0 (Nat.toDigits 16 n) = some n := by
  have hdigit : ∀ d < 16, hexValue? (Nat.digitChar d) = some d := by decide
  induction n using Nat.strongRecOn with
  | _ n ih =>
      rw [Nat.toDigits_eq_if (by decide)]
      split
      next hsmall => simp [hexFrom?, hdigit n hsmall]
      next hlarge =>
        rw [hexFrom?_append, ih (n / 16) (by omega), Option.bind_some, hexFrom?,
          hdigit _ (Nat.mod_lt _ (by decide)), Option.bind_some, hexFrom?, Nat.div_add_mod']

theorem brace_notMem_toDigits (n : Nat) : '\x7d' ∉ Nat.toDigits 16 n := by
  have hdigit : ∀ d < 16, Nat.digitChar d ≠ '\x7d' := by decide
  induction n using Nat.strongRecOn with
  | _ n ih =>
      rw [Nat.toDigits_eq_if (by decide)]
      split
      next => simp
      next hlarge =>
        rw [List.mem_append, not_or, List.mem_singleton]
        exact ⟨ih (n / 16) (by omega), (hdigit _ (Nat.mod_lt _ (by decide))).symm⟩

/-- What the letter after a backslash stands for. -/
def escaped (c : Char) : Char :=
  if c = '0' then '\x00'
  else if c = 't' then '\t'
  else if c = 'r' then '\r'
  else if c = 'n' then '\n'
  else c

/-- The first character of a quoted text, and the rest of the text. -/
def unquote? : List Char → Option (Char × List Char)
  | '\\' :: 'u' :: '\x7b' :: cs =>
    (hexFrom? 0 (cs.takeWhile (· != '\x7d'))).map fun n =>
      (Char.ofNat n, (cs.dropWhile (· != '\x7d')).drop 1)
  | '\\' :: c :: cs => some (escaped c, cs)
  | c :: cs => if c = '\x22' then none else some (c, cs)
  | [] => none

theorem unquote?_codeEscape (c : Char) (rest : List Char) :
    unquote? (codeEscape c ++ rest) = some (c, rest) := by
  have hdigits : ∀ d ∈ Nat.toDigits 16 c.toNat, (d != '\x7d') = true := by
    rintro d hd
    rw [bne_iff_ne]
    rintro rfl
    exact brace_notMem_toDigits _ hd
  have htext : codeEscape c ++ rest =
      '\\' :: 'u' :: '\x7b' :: (Nat.toDigits 16 c.toNat ++ '\x7d' :: rest) := by
    simp [codeEscape]
  rw [htext, unquote?, List.takeWhile_append_of_pos hdigits, List.dropWhile_append_of_pos hdigits]
  simp [hexFrom?_toDigits]

theorem unquote?_self {c : Char} (hback : c ≠ '\\') (hquote : c ≠ '\x22') (rest : List Char) :
    unquote? (c :: rest) = some (c, rest) := by
  rw [unquote?.eq_def]
  split <;> simp_all

theorem unquote?_quoteChar (c : Char) (rest : List Char) :
    unquote? (quoteChar c ++ rest) = some (c, rest) := by
  rw [quoteChar]
  split_ifs with h0 ht hr hn hback hquote
  · simp [unquote?, escaped, h0]
  · simp [unquote?, escaped, ht]
  · simp [unquote?, escaped, hr]
  · simp [unquote?, escaped, hn]
  · simp [unquote?, escaped, hback]
  · simp [unquote?, escaped, hquote]
  · exact unquote?_self hback hquote rest
  · exact unquote?_codeEscape c rest
  · exact unquote?_self hback hquote rest

theorem unquote?_quote (rest : List Char) : unquote? ('\x22' :: rest) = none := by
  simp [unquote?]

/-- **A quoted text ends at its closing quote.** -/
theorem quote_unique {s t : String} {x y : List Char}
    (h : (quote s).toList ++ x = (quote t).toList ++ y) : s = t ∧ x = y := by
  -- reading the first character of both texts tells it and leaves the same rest
  have hchars : ∀ {cs ds : List Char}, cs.flatMap quoteChar ++ '\x22' :: x =
      ds.flatMap quoteChar ++ '\x22' :: y → cs = ds ∧ x = y := by
    intro cs
    induction cs with
    | nil =>
        intro ds h
        cases ds with
        | nil => exact ⟨rfl, by simpa using h⟩
        | cons d ds =>
            have hread := congrArg unquote? h
            simp [unquote?_quoteChar, unquote?_quote] at hread
    | cons c cs ih =>
        intro ds h
        have hread := congrArg unquote? h
        cases ds with
        | nil => simp [unquote?_quoteChar, unquote?_quote] at hread
        | cons d ds =>
            simp only [List.flatMap_cons, List.append_assoc, unquote?_quoteChar, Option.some.injEq,
              Prod.mk.injEq] at hread
            obtain ⟨rfl, hrest⟩ := hread
            obtain ⟨rfl, hend⟩ := ih hrest
            exact ⟨rfl, hend⟩
  simp only [quote, quoteChars, String.toList_ofList, List.cons_append, List.append_assoc,
    List.nil_append, List.cons.injEq, true_and] at h
  obtain ⟨hst, hend⟩ := hchars h
  exact ⟨String.toList_inj.mp hst, hend⟩

/-! ### Numerals -/

theorem isBreak_of_isDigit {c : Char} (h : c.isDigit) : isBreak c = false := by
  by_contra hbreak
  simp only [isBreak, Bool.not_eq_false, List.contains_iff_mem, List.mem_cons, List.not_mem_nil,
    or_false] at hbreak
  rcases hbreak with rfl | rfl | rfl | rfl | rfl | rfl | rfl | rfl <;> simp at h

end Text

namespace Numeral

open Text (isBreak)

/-- The characters of numbers and timestamps. -/
def IsPart (c : Char) : Prop :=
  c.isDigit ∨ c ∈ ['-', '+', '.', 'e', ':', 'T', 'Z']

theorem IsPart.not_break {c : Char} (h : IsPart c) : isBreak c = false := by
  rcases h with hdigit | hmark
  · exact Text.isBreak_of_isDigit hdigit
  · have hmarks : ∀ d ∈ ['-', '+', '.', 'e', ':', 'T', 'Z'], isBreak d = false := by simp [isBreak]
    exact hmarks c hmark

theorem isPart_ofNat {n : Nat} : ∀ c ∈ ofNat n, IsPart c :=
  fun _ h => Or.inl (isDigit_of_mem_ofNat h)

theorem isPart_padded {width n : Nat} : ∀ c ∈ padded width n, IsPart c :=
  fun _ h => Or.inl (isDigit_of_mem_padded h)

theorem ofInt_ne_nil (n : Int) : ofInt n ≠ [] := by
  rw [ofInt]
  split
  · exact List.cons_ne_nil _ _
  · exact ofNat_ne_nil _

theorem ofNat_injective : Function.Injective ofNat := by
  intro m n h
  have hread := natural?_ofNat m
  rw [h, natural?_ofNat] at hread
  exact (Option.some.inj hread).symm

theorem isPart_ofInt {n : Int} : ∀ c ∈ ofInt n, IsPart c := by
  rw [ofInt]
  split
  · exact List.forall_mem_cons.mpr ⟨Or.inr (by decide), isPart_ofNat⟩
  · exact isPart_ofNat

theorem isPart_positional {d : Decimal} : ∀ c ∈ positional d, IsPart c := by
  obtain ⟨digits, exponent⟩ := d
  have hdigits : ∀ c ∈ ofNat digits, IsPart c := isPart_ofNat
  have hzeros : ∀ n, ∀ c ∈ List.replicate n '0', IsPart c :=
    fun _ _ h => Or.inl (isDigit_of_mem_zeros h)
  cases exponent with
  | ofNat e =>
      simp only [positional]
      split
      · exact List.forall_mem_singleton.mpr (Or.inl rfl)
      · exact List.forall_mem_append.mpr ⟨hdigits, hzeros e⟩
  | negSucc e =>
      simp only [positional]
      split
      · exact List.forall_mem_append.mpr ⟨fun c h => hdigits c (List.mem_of_mem_take h),
          List.forall_mem_cons.mpr
            ⟨Or.inr (by decide), fun c h => hdigits c (List.mem_of_mem_drop h)⟩⟩
      · have hpoint : ∀ c ∈ ['0', '.'], IsPart c := by simp [IsPart]
        exact List.forall_mem_append.mpr ⟨List.forall_mem_append.mpr ⟨hpoint, hzeros _⟩, hdigits⟩

end Numeral

end RecordQuery
