import RecordQuery.Evaluator
import RecordQuery.Proofs.Boundary
import RecordQuery.Proofs.Listing

/-!
# Where errors come from

Everything that is asked of an evaluator is compiled to a plan of calls before the source is called.
An error is therefore either there before the first call, whatever the source is, or it is met while
a page by cursor is made of rows that were fetched, and then the codec refused to encode a token.
-/

namespace RecordQuery

/-! ### Questions and plans -/

inductive Question where
  | list (spec : Specification)
  | count (spec : Specification)
  | paginate (spec : Specification) (request : OffsetRequest)
  | paginateCursor (schema : Schema) (spec : Specification) (request : CursorRequest)
  | query (schema : Schema) (request : QueryRequest) (tieBreaker : String)

inductive Answer (α : Type) where
  | rows (rows : List α)
  | total (total : Nat)
  | page (page : Page α)

inductive Plan where
  | list (fetch : Fetch)
  | count (filter : Filter)
  | window (filter : Filter) (fetch : Fetch) (page size : Nat)
  | keyset (pager : KeysetPager) (base : Fetch)

section Answers

variable {m : Type → Type} {α : Type} [Monad m] [Queryable α]

def Plan.run (source : Source m α) : Plan → m (Except QueryError (Answer α))
  | .list fetch => (fun rows => .ok (.rows rows)) <$> source.fetch fetch
  | .count filter => (fun total => .ok (.total total)) <$> source.count filter
  | .window filter fetch page size => do
    let total ← source.count filter
    let data ← source.fetch fetch
    return .ok (.page ⟨data, .offset total page size⟩)
  | .keyset pager base => Except.map Answer.page <$> pager.run source base

namespace Evaluator

def answer (e : Evaluator m α) : Question → m (Except QueryError (Answer α))
  | .list spec => (fun rows => .ok (.rows rows)) <$> e.list spec
  | .count spec => (fun total => .ok (.total total)) <$> e.count spec
  | .paginate spec request => Except.map Answer.page <$> e.paginate spec request
  | .paginateCursor schema spec request =>
    Except.map Answer.page <$> e.paginateCursor schema spec request
  | .query schema request tieBreaker => Except.map Answer.page <$> e.query schema request tieBreaker

def withSource {n : Type → Type} (e : Evaluator m α) (source : Source n α) : Evaluator n α :=
  ⟨source, e.config, e.codec⟩

def windowPlan (e : Evaluator m α) (spec : Specification) (request : OffsetRequest) :
    Except QueryError Plan :=
  (offsetWindow request.page (e.config.clamp request.pageSize)).map fun (skip, take) =>
    .window spec.predicate { base spec with skip := skip, take := some take } request.page take

def keysetPlan (e : Evaluator m α) (schema : Schema) (spec : Specification)
    (request : CursorRequest) : Except QueryError Plan :=
  (e.pager schema spec request).map fun pager => .keyset pager (base spec)

def plan (e : Evaluator m α) : Question → Except QueryError Plan
  | .list spec => .ok (.list (base spec))
  | .count spec => .ok (.count spec.predicate)
  | .paginate spec request => e.windowPlan spec request
  | .paginateCursor schema spec request => e.keysetPlan schema spec request
  | .query schema request tieBreaker =>
    match e.specification schema request tieBreaker with
    | .error error => .error error
    | .ok spec =>
      let size := e.config.pageSize request.pageSize
      match request.cursorRequest? tieBreaker with
      | some cursor => e.keysetPlan schema spec { cursor with size := size }
      | none => e.windowPlan spec ⟨request.page, size⟩

def carryOut (source : Source m α) :
    Except QueryError Plan → m (Except QueryError (Answer α))
  | .error error => pure (.error error)
  | .ok plan => plan.run source

section Compile

variable [LawfulMonad m]

theorem paginate_eq_carryOut (e : Evaluator m α) (spec : Specification) (request : OffsetRequest) :
    Except.map Answer.page <$> e.paginate spec request =
      carryOut e.source (e.windowPlan spec request) := by
  unfold paginate windowPlan
  cases offsetWindow request.page (e.config.clamp request.pageSize) with
  | error error => exact map_pure ..
  | ok window =>
      dsimp only [Except.map, carryOut, Plan.run]
      rw [map_bind]
      congr
      funext total
      rw [map_bind]
      congr
      funext data
      exact map_pure ..

theorem paginateCursor_eq_carryOut (e : Evaluator m α) (schema : Schema) (spec : Specification)
    (request : CursorRequest) :
    Except.map Answer.page <$> e.paginateCursor schema spec request =
      carryOut e.source (e.keysetPlan schema spec request) := by
  unfold paginateCursor keysetPlan
  cases e.pager schema spec request with
  | error error => exact map_pure ..
  | ok pager => rfl

/-- **Questions are compiled first.** Without a plan the answer is an error, and with one it is what
the plan makes of the source. -/
theorem answer_eq_carryOut (e : Evaluator m α) (q : Question) :
    e.answer q = carryOut e.source (e.plan q) := by
  cases q with
  | list spec => rfl
  | count spec => rfl
  | paginate spec request => exact e.paginate_eq_carryOut spec request
  | paginateCursor schema spec request => exact e.paginateCursor_eq_carryOut schema spec request
  | query schema request tieBreaker =>
      rw [answer, query, plan]
      cases e.specification schema request tieBreaker with
      | error error => exact map_pure ..
      | ok spec =>
          dsimp only
          cases request.cursorRequest? tieBreaker with
          | some cursor => exact e.paginateCursor_eq_carryOut schema spec _
          | none => exact e.paginate_eq_carryOut spec _

omit [Monad m] [Queryable α] [LawfulMonad m] in
theorem plan_withSource {n : Type → Type} (e : Evaluator m α) (source : Source n α)
    (q : Question) : (e.withSource source).plan q = e.plan q := by
  cases q <;> rfl

end Compile

end Evaluator

end Answers

/-! ### Sources with a state -/

section Effects

variable {ε σ α β γ : Type}

/-- Logs a call in front of the state of a source. -/
def Call.log (call : Call) (x : ExceptT ε (StateM σ) β) : ExceptT ε (StateM (List Call × σ)) β :=
  ExceptT.mk fun w => ((x.run.run w.2).1, w.1 ++ [call], (x.run.run w.2).2)

/-- The source with a log of all calls. -/
def Source.logged (source : Source (ExceptT ε (StateM σ)) α) :
    Source (ExceptT ε (StateM (List Call × σ))) α where
  count filter := (Call.count filter).log (source.count filter)
  fetch request := (Call.fetch request).log (source.fetch request)

def Source.failing (fault : ε) : Source (ExceptT ε (StateM σ)) α where
  count _ := throw fault
  fetch _ := throw fault

theorem run_bind_eq_ok {x : ExceptT ε (StateM σ) β} {f : β → ExceptT ε (StateM σ) γ} {c : γ}
    {s s' : σ} : (x >>= f).run.run s = (.ok c, s') ↔
      ∃ b s₁, x.run.run s = (.ok b, s₁) ∧ (f b).run.run s₁ = (.ok c, s') := by
  have hrun : (x >>= f).run.run s = match x.run.run s with
      | (.ok b, s₁) => (f b).run.run s₁
      | (.error fault, s₁) => (.error fault, s₁) := by
    rw [ExceptT.run_bind, StateT.run_bind]
    rcases x.run.run s with ⟨fault | b, s₁⟩
    · rfl
    · rfl
  rw [hrun]
  rcases x.run.run s with ⟨fault | b, s₁⟩
  · constructor
    · intro h
      cases h
    · rintro ⟨b, s₂, h, -⟩
      cases h
  · constructor
    · intro h
      exact ⟨b, s₁, rfl, h⟩
    · rintro ⟨b, s₂, h, hf⟩
      cases h
      exact hf

theorem run_map_eq_ok {x : ExceptT ε (StateM σ) β} {f : β → γ} {c : γ} {s s' : σ} :
    (f <$> x).run.run s = (.ok c, s') ↔ ∃ b, x.run.run s = (.ok b, s') ∧ f b = c := by
  rw [map_eq_pure_bind, run_bind_eq_ok]
  constructor
  · rintro ⟨b, s₁, hx, hf⟩
    cases hf
    exact ⟨b, hx, rfl⟩
  · rintro ⟨b, hx, rfl⟩
    exact ⟨b, s', hx, rfl⟩

theorem of_run_log {call : Call} {x : ExceptT ε (StateM σ) β} {b : β} {w w' : List Call × σ}
    (h : (call.log x).run.run w = (.ok b, w')) :
    x.run.run w.2 = (.ok b, w'.2) ∧ w'.1 = w.1 ++ [call] := by
  have hvalue := congrArg Prod.fst h
  have hlog := congrArg (fun r => r.2.1) h
  have hstate := congrArg (fun r => r.2.2) h
  exact ⟨Prod.ext hvalue hstate, hlog.symm⟩

/-- The second computation does what the first one does, behind a log. -/
def Mirrors (x : ExceptT ε (StateM σ) β) (y : ExceptT ε (StateM (List Call × σ)) β) : Prop :=
  ∀ log s, (y.run.run (log, s)).1 = (x.run.run s).1 ∧
    (y.run.run (log, s)).2.2 = (x.run.run s).2

theorem mirrors_pure (b : β) :
    Mirrors (pure b : ExceptT ε (StateM σ) β) (pure b) :=
  fun _ _ => ⟨rfl, rfl⟩

theorem mirrors_log (call : Call) (x : ExceptT ε (StateM σ) β) : Mirrors x (call.log x) :=
  fun _ _ => ⟨rfl, rfl⟩

theorem Mirrors.bind {x : ExceptT ε (StateM σ) β} {y : ExceptT ε (StateM (List Call × σ)) β}
    {f : β → ExceptT ε (StateM σ) γ} {g : β → ExceptT ε (StateM (List Call × σ)) γ}
    (hxy : Mirrors x y) (hfg : ∀ b, Mirrors (f b) (g b)) : Mirrors (x >>= f) (y >>= g) := by
  intro log s
  obtain ⟨hvalue, hstate⟩ := hxy log s
  rw [ExceptT.run_bind, ExceptT.run_bind, StateT.run_bind, StateT.run_bind]
  rcases hx : x.run.run s with ⟨result, s₁⟩
  rcases hy : y.run.run (log, s) with ⟨result', log₁, s₂⟩
  -- both first halves end alike, so the second halves start from the same state
  rw [hx, hy] at hvalue hstate
  cases hvalue
  cases hstate
  cases result with
  | error fault => exact ⟨rfl, rfl⟩
  | ok b => exact hfg b log₁ s₁

theorem Mirrors.map {x : ExceptT ε (StateM σ) β} {y : ExceptT ε (StateM (List Call × σ)) β}
    (hxy : Mirrors x y) (f : β → γ) : Mirrors (f <$> x) (f <$> y) := by
  rw [map_eq_pure_bind, map_eq_pure_bind]
  exact hxy.bind fun b => mirrors_pure (f b)

/-! ### Pages by cursor -/

namespace KeysetPager

def edgeFetch (pager : KeysetPager) (base : Fetch) (order : SortOrder) : Fetch :=
  { base with filter := pager.filter, order := some order, skip := 0, take := some 1 }

def rowsFetch (pager : KeysetPager) (base : Fetch) : Fetch :=
  let (filter, order) := match pager.position with
    | .start => (pager.filter, pager.sort)
    | .after filter => (filter, pager.sort)
    | .before filter => (filter, pager.sort.reversed)
  { base with filter := filter, order := some order, skip := 0, take := some pager.size }

/-- The calls for a page of a set that is not empty. -/
def calls (pager : KeysetPager) (base : Fetch) : List Call :=
  [.count pager.filter, .fetch (pager.edgeFetch base pager.sort),
    .fetch (pager.edgeFetch base pager.sort.reversed), .fetch (pager.rowsFetch base)]

variable [Queryable α] {pager : KeysetPager} {source : Source (ExceptT ε (StateM σ)) α}
  {base : Fetch} {w w' : List Call × σ}

omit [Queryable α] in
theorem log_of_edge {order : SortOrder} {row : Option α}
    (h : (pager.edge source.logged base order).run.run w = (.ok row, w')) :
    w'.1 = w.1 ++ [.fetch (pager.edgeFetch base order)] := by
  obtain ⟨rows, w₁, hfetch, hrow⟩ := run_bind_eq_ok.mp h
  cases hrow
  exact (of_run_log hfetch).2

/-- The row is one of those that the source fetched for the page before it came to the state. -/
def Fetched (pager : KeysetPager) (source : Source (ExceptT ε (StateM σ)) α) (base : Fetch)
    (s' : σ) (row : α) : Prop :=
  ∃ s rows, (source.fetch (pager.rowsFetch base)).run.run s = (.ok rows, s') ∧ row ∈ rows

omit [Queryable α] in
theorem log_of_rows {rows : List α}
    (h : (pager.rows source.logged base).run.run w = (.ok rows, w')) :
    w'.1 = w.1 ++ [.fetch (pager.rowsFetch base)] ∧
      ∀ row ∈ rows, pager.Fetched source base w'.2 row := by
  unfold KeysetPager.rows at h
  unfold Fetched rowsFetch
  cases hposition : pager.position with
  | start =>
      rw [hposition] at h
      obtain ⟨hfetch, hlog⟩ := of_run_log h
      exact ⟨hlog, fun row hrow => ⟨w.2, rows, hfetch, hrow⟩⟩
  | after filter =>
      rw [hposition] at h
      obtain ⟨hfetch, hlog⟩ := of_run_log h
      exact ⟨hlog, fun row hrow => ⟨w.2, rows, hfetch, hrow⟩⟩
  | before filter =>
      rw [hposition] at h
      obtain ⟨fetched, w₁, h, hrows⟩ := run_bind_eq_ok.mp h
      cases hrows
      obtain ⟨hfetch, hlog⟩ := of_run_log h
      exact ⟨hlog, fun row hrow => ⟨w.2, fetched, hfetch, List.mem_reverse.mp hrow⟩⟩

omit [Queryable α] in
theorem mirrors_edge (order : SortOrder) :
    Mirrors (pager.edge source base order) (pager.edge source.logged base order) :=
  (mirrors_log _ _).bind fun _ => mirrors_pure _

omit [Queryable α] in
theorem mirrors_rows : Mirrors (pager.rows source base) (pager.rows source.logged base) := by
  unfold KeysetPager.rows
  cases pager.position with
  | start => exact mirrors_log _ _
  | after filter => exact mirrors_log _ _
  | before filter => exact (mirrors_log _ _).bind fun _ => mirrors_pure _

theorem mirrors_run : Mirrors (pager.run source base) (pager.run source.logged base) := by
  refine (mirrors_log _ _).bind fun total => ?_
  by_cases htotal : total = 0
  · rw [if_pos htotal, if_pos htotal]
    exact mirrors_pure _
  · rw [if_neg htotal, if_neg htotal]
    refine (mirrors_edge _).bind fun first => (mirrors_edge _).bind fun last => ?_
    exact mirrors_rows.bind fun rows => mirrors_pure _

/-- A page is either empty or made after all calls. -/
theorem run_logged {answer : Except QueryError (Page α)}
    (h : (pager.run source.logged base).run.run w = (.ok answer, w')) :
    (∃ paging, answer = .ok (.empty paging)) ∨
      w'.1 = w.1 ++ pager.calls base ∧
        ∃ total first last rows, answer = pager.page total first last rows ∧
          ∀ row ∈ rows, pager.Fetched source base w'.2 row := by
  obtain ⟨total, w₁, hcount, h⟩ := run_bind_eq_ok.mp h
  by_cases htotal : total = 0
  · rw [if_pos htotal] at h
    cases h
    exact Or.inl ⟨_, rfl⟩
  · rw [if_neg htotal] at h
    obtain ⟨first, w₂, hfirst, h⟩ := run_bind_eq_ok.mp h
    obtain ⟨last, w₃, hlast, h⟩ := run_bind_eq_ok.mp h
    obtain ⟨rows, w₄, hrows, h⟩ := run_bind_eq_ok.mp h
    cases h
    obtain ⟨hlog, hfetched⟩ := log_of_rows hrows
    refine Or.inr ⟨?_, total, first, last, rows, rfl, hfetched⟩
    rw [hlog, log_of_edge hlast, log_of_edge hfirst, (of_run_log hcount).2]
    simp [calls]

variable {error : QueryError} {first last : Option α} {rows : List α} {total : Nat}

theorem token_of_previous_eq_error (h : pager.previous first rows = .error error) :
    ∃ row ∈ rows, pager.token row = .error error := by
  unfold previous at h
  cases hrow : rows.head? with
  | none =>
      rw [hrow] at h
      cases hposition : pager.position <;> rw [hposition] at h <;> cases h
  | some row =>
      rw [hrow] at h
      refine ⟨row, List.mem_of_mem_head? hrow, ?_⟩
      cases hposition : pager.position with
      | start =>
          rw [hposition] at h
          cases h
      | after filter | before filter =>
          rw [hposition] at h
          dsimp only at h
          split at h
          · cases h
          · exact map_eq_error.mp h

theorem token_of_next_eq_error (h : pager.next last rows = .error error) :
    ∃ row ∈ rows, pager.token row = .error error := by
  unfold next at h
  cases hrow : rows.getLast? with
  | none =>
      rw [hrow] at h
      cases h
  | some row =>
      rw [hrow] at h
      refine ⟨row, List.mem_of_getLast? hrow, ?_⟩
      dsimp only at h
      by_cases hlevel : pager.level row last = true
      · rw [if_pos hlevel] at h
        cases h
      · rw [if_neg hlevel] at h
        generalize (rows.length < pager.size && !_ : Bool) = short at h
        cases short with
        | true => cases h
        | false => exact map_eq_error.mp h

/-- **A page fails only where a token is refused.** -/
theorem token_of_page_eq_error (h : pager.page total first last rows = .error error) :
    ∃ row ∈ rows, pager.token row = .error error := by
  unfold page at h
  cases hprevious : pager.previous first rows with
  | error other =>
      rw [hprevious] at h
      cases h
      exact token_of_previous_eq_error hprevious
  | ok before =>
      cases hnext : pager.next last rows with
      | error other =>
          rw [hprevious, hnext] at h
          cases h
          exact token_of_next_eq_error hnext
      | ok after =>
          rw [hprevious, hnext] at h
          cases h

end KeysetPager

/-! ### Questions -/

section Origin

variable [Queryable α] {source : Source (ExceptT ε (StateM σ)) α} {plan : Plan} {q : Question}
  {error : QueryError}

theorem Plan.mirrors_run (source : Source (ExceptT ε (StateM σ)) α) (plan : Plan) :
    Mirrors (plan.run source) (plan.run source.logged) := by
  cases plan with
  | list fetch => exact (mirrors_log _ _).map _
  | count filter => exact (mirrors_log _ _).map _
  | window filter fetch page size =>
      exact (mirrors_log _ _).bind fun total => (mirrors_log _ _).bind fun data => mirrors_pure _
  | keyset pager base => exact KeysetPager.mirrors_run.map _

theorem Plan.run_failing (fault : ε) (plan : Plan) :
    plan.run (.failing fault : Source (ExceptT ε (StateM σ)) α) = throw fault := by
  cases plan <;> rfl

/-- Only a page by cursor fails for a reason that is not the source's, and it does so at the end. -/
theorem Plan.origin_of_run {w w' : List Call × σ}
    (h : (plan.run source.logged).run.run w = (.ok (.error error), w')) :
    ∃ pager base, plan = .keyset pager base ∧ w'.1 = w.1 ++ pager.calls base ∧
      ∃ row, pager.Fetched source base w'.2 row ∧ pager.token row = .error error := by
  cases plan with
  | list fetch =>
      obtain ⟨rows, -, hrows⟩ := run_map_eq_ok.mp h
      cases hrows
  | count filter =>
      obtain ⟨total, -, htotal⟩ := run_map_eq_ok.mp h
      cases htotal
  | window filter fetch page size =>
      obtain ⟨total, w₁, -, h⟩ := run_bind_eq_ok.mp h
      obtain ⟨data, w₂, -, h⟩ := run_bind_eq_ok.mp h
      cases h
  | keyset pager base =>
      obtain ⟨answer, hrun, hanswer⟩ := run_map_eq_ok.mp h
      rcases KeysetPager.run_logged hrun with
        ⟨paging, rfl⟩ | ⟨hcalls, total, first, last, rows, rfl, hfetched⟩
      · cases hanswer
      · obtain ⟨row, hrow, htoken⟩ := KeysetPager.token_of_page_eq_error (map_eq_error.mp hanswer)
        exact ⟨pager, base, rfl, hcalls, row, hfetched row hrow, htoken⟩

end Origin

end Effects

namespace Evaluator

section Codec

variable {m : Type → Type} {α : Type} {e : Evaluator m α} {pager : KeysetPager} {base : Fetch}

theorem codec_of_keysetPlan {schema : Schema} {spec : Specification} {request : CursorRequest}
    (h : e.keysetPlan schema spec request = .ok (.keyset pager base)) : pager.codec = e.codec := by
  obtain ⟨other, hpager, heq⟩ := map_eq_ok.mp h
  cases heq
  obtain ⟨sort, -, hcreate⟩ := bind_eq_ok.mp hpager
  obtain ⟨-, -, position, -, rfl⟩ := KeysetPager.create_eq_ok.mp hcreate
  rfl

theorem windowPlan_ne_keyset {spec : Specification} {request : OffsetRequest}
    (h : e.windowPlan spec request = .ok (.keyset pager base)) : False := by
  obtain ⟨window, -, heq⟩ := map_eq_ok.mp h
  cases heq

theorem codec_of_plan {q : Question} (h : e.plan q = .ok (.keyset pager base)) :
    pager.codec = e.codec := by
  cases q with
  | list spec => cases h
  | count spec => cases h
  | paginate spec request => exact (windowPlan_ne_keyset h).elim
  | paginateCursor schema spec request => exact codec_of_keysetPlan h
  | query schema request tieBreaker =>
      rw [plan] at h
      cases hspec : e.specification schema request tieBreaker with
      | error error =>
          rw [hspec] at h
          cases h
      | ok spec =>
          rw [hspec] at h
          dsimp only at h
          cases hcursor : request.cursorRequest? tieBreaker with
          | some cursor =>
              rw [hcursor] at h
              exact codec_of_keysetPlan h
          | none =>
              rw [hcursor] at h
              exact (windowPlan_ne_keyset h).elim

end Codec

/-- **Where errors come from.** Let an evaluator over any source, which may fail and change a state,
answer a question with an error that is not the source's. Then either no call was made, and the same
question has the same answer over every source, one that fails every call included. Or the question
is one for a page by cursor, the page was counted and fetched, and the codec refused to encode the
token of a row that was fetched; over a source that fails every call it fails as the source does. -/
theorem compile_error_origin {ε σ α : Type} [Queryable α]
    (e : Evaluator (ExceptT ε (StateM σ)) α) (q : Question) {s s' : σ} {error : QueryError}
    (h : (e.answer q).run.run s = (.ok (.error error), s')) :
    ∃ calls, ((e.withSource e.source.logged).answer q).run.run ([], s) =
        (.ok (.error error), calls, s') ∧
      ((calls = [] ∧ s' = s ∧ ∀ (n : Type → Type) [Monad n] [LawfulMonad n] (source : Source n α),
          (e.withSource source).answer q = pure (.error error)) ∨
        ∃ pager base, e.plan q = .ok (.keyset pager base) ∧ calls = pager.calls base ∧
          (∃ row, pager.Fetched e.source base s' row ∧
            e.codec.encode (.capture (Queryable.record row) pager.sort) = .error error) ∧
          ∀ fault : ε, (e.withSource (.failing fault : Source (ExceptT ε (StateM σ)) α)).answer q =
            throw fault) := by
  have hanswer : ∀ {n : Type → Type} [Monad n] [LawfulMonad n] (source : Source n α),
      (e.withSource source).answer q = carryOut source (e.plan q) := by
    intro n _ _ source
    rw [answer_eq_carryOut, plan_withSource]
    rfl
  rw [answer_eq_carryOut] at h
  rw [hanswer]
  cases hplan : e.plan q with
  | error other =>
      rw [hplan] at h
      cases h
      refine ⟨[], rfl, Or.inl ⟨rfl, rfl, ?_⟩⟩
      intro n _ _ source
      rw [hanswer, hplan]
      rfl
  | ok plan =>
      rw [hplan] at h
      obtain ⟨hvalue, hstate⟩ := plan.mirrors_run e.source [] s
      have hlogged : (plan.run e.source.logged).run.run ([], s) =
          (.ok (.error error), ((plan.run e.source.logged).run.run ([], s)).2.1, s') := by
        have hrun : (plan.run e.source).run.run s = (.ok (.error error), s') := h
        rw [hrun] at hvalue hstate
        exact Prod.ext hvalue (Prod.ext rfl hstate)
      obtain ⟨pager, base, rfl, hcalls, row, hfetched, hrow⟩ := Plan.origin_of_run hlogged
      refine ⟨_, hlogged, Or.inr ⟨pager, base, rfl, hcalls, ⟨row, hfetched, ?_⟩, ?_⟩⟩
      · rw [← codec_of_plan hplan]
        exact hrow
      · intro fault
        rw [hanswer, hplan, carryOut]
        exact Plan.run_failing fault _

end Evaluator

namespace Event

/-- An evaluator over two events whose source logs its calls and fails after the first ones. -/
def evaluator (served : Nat) (layers : List Layer) : Evaluator Recorded Event :=
  ⟨Source.recorded served (Source.ofList pair), {}, ⟨layers⟩⟩

def firstPage : Question :=
  .paginateCursor schema {} { size := 1, sort := some "at", uniqueSort := "id" }

/-- A layer that refuses to encode. -/
def refusing : Layer := ⟨fun _ => .error (.malformedCursor (.refused "encode refused")), .ok⟩

theorem page_zero_makes_no_call :
    ∃ calls, (((evaluator 10 []).withSource (evaluator 10 []).source.logged).answer
        (.paginate {} ⟨0, 1⟩)).run.run ([], []) =
      (.ok (.error (.invalidPagination .pageZero)), calls, []) ∧ calls = [] := by
  have hanswer : ((evaluator 10 []).answer (.paginate {} ⟨0, 1⟩)).run.run [] =
      (.ok (.error (.invalidPagination .pageZero)), []) := rfl
  obtain ⟨calls, hrun, hcases⟩ := Evaluator.compile_error_origin _ _ hanswer
  refine ⟨calls, hrun, ?_⟩
  rcases hcases with ⟨hnone, -, -⟩ | ⟨pager, base, hplan, -⟩
  · exact hnone
  · cases hplan

/-- A layer that refuses to encode is met after four calls, and not at all when the source fails. -/
theorem refused_after_calls :
    (∃ calls, ((evaluator 10 [refusing]).answer firstPage).run.run [] =
        (.ok (.error (.malformedCursor (.refused "encode refused"))), calls) ∧ calls.length = 4) ∧
      ((evaluator 0 [refusing]).answer firstPage).run.run [] =
        (.error ⟨⟩, [.count (.const true)]) := by
  constructor
  · exact ⟨_, rfl, rfl⟩
  · rfl

end Event

end RecordQuery
