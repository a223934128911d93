import FluentSql.Proofs.Chain.Requested
import FluentSql.Proofs.Number.Numeral
import FluentSql.Proofs.Run.Session
import FluentSql.Run.Execution

/-!
# The course of a run

A run prepares data, from the rows that the main statement returns, and then counts. What stops it
on the way is the error of its response.

Results:
1. `Runner.run_eq`: a run is its preparation and its count, one after the other.
2. `Runner.prepares`: the ways in which a preparation ends.
3. `Runner.stops_iff`, `Runner.fails_iff`: what stops a preparation, and what makes a run fail.
-/

namespace FluentSql

variable {σ : Type}

/-! ## Rows and counts -/

/-- The rows of which a caller sees something. -/
def RowDemand.kept (demand : RowDemand) (rows : List Row) : List Row :=
  match demand with
  | .many => rows
  | .one | .atMostOne => rows.take 1

/-- The failure of a caller who expects a row where there is none. -/
def noRow : Error := .notFound "Expected 1 row, got 0"

theorem RowDemand.take_nil {demand : RowDemand} (expects : demand = .one) :
    demand.take [] = .error noRow := by
  rw [expects]
  rfl

theorem RowDemand.take_of_enough {demand : RowDemand} {rows : List Row}
    (enough : demand = .one → rows ≠ []) : demand.take rows = .ok (demand.kept rows) := by
  cases demand with
  | many | atMostOne => rfl
  | one =>
    cases rows with
    | nil => exact absurd rfl (enough rfl)
    | cons row rest => rfl

/-- The first row holds the count, a signed 64-bit integer: as a number, or as a numeral. -/
def TellsCount (rows : List Row) (count : Int) : Prop :=
  (-9223372036854775808 ≤ count ∧ count ≤ 9223372036854775807) ∧
    ∃ row value, rows.head? = some row ∧ row.get? "count" = some value ∧
      (value = .number (.int count) ∨ ∃ text, value = .string text ∧ IsNumeral text.toList count)

/-- What is wrong with the answer to a count. -/
inductive Untold (rows : List Row) : DecodeFault → Prop
  /-- There is no row, or the first one does not hold a count. -/
  | noCount (missing : ∀ row, rows.head? = some row → row.get? "count" = none) : Untold rows .noCount
  /-- What the first row holds is no signed 64-bit integer. -/
  | countNotInteger {row : Row} {value : Json} (first : rows.head? = some row)
      (held : row.get? "count" = some value) (untold : ∀ count, ¬ TellsCount rows count) :
      Untold rows (.countNotInteger value)

theorem countOf_eq_some_iff {value : Json} {count : Int} :
    countOf value = some count ↔
      isInt64 count = true ∧
        (value = .number (.int count) ∨
          ∃ text, value = .string text ∧ IsNumeral text.toList count) := by
  cases value with
  | string text =>
    have read : countOf (.string text) = int64? text.toList := rfl
    rw [read, int64?_eq_some_iff, and_comm]
    refine and_congr_right fun _ => ⟨fun numeral => .inr ⟨text, rfl, numeral⟩, ?_⟩
    rintro (other | ⟨text, same, numeral⟩)
    · cases other
    · cases same
      exact numeral
  | number number =>
    cases number with
    | int n =>
      have read : countOf (.number (.int n)) = if isInt64 n then some n else none := rfl
      rw [read, Option.ite_none_right_eq_some]
      constructor
      · rintro ⟨within, ⟨⟩⟩
        exact ⟨within, .inl rfl⟩
      · rintro ⟨within, same | ⟨text, other, -⟩⟩
        · cases same
          exact ⟨within, rfl⟩
        · cases other
    | float => exact iff_of_false nofun (by simp)
  | null | bool | array | object => exact iff_of_false nofun (by simp)

theorem tellsCount_iff {rows : List Row} {row : Row} {value : Json} (first : rows.head? = some row)
    (held : row.get? "count" = some value) {count : Int} :
    TellsCount rows count ↔ countOf value = some count := by
  rw [countOf_eq_some_iff, isInt64_iff]
  constructor
  · rintro ⟨within, row', value', first', held', tells⟩
    cases first.symm.trans first'
    cases held.symm.trans held'
    exact ⟨within, tells⟩
  · rintro ⟨within, tells⟩
    exact ⟨within, row, value, first, held, tells⟩

/-- A count is read if it is told, and else what is wrong is the error. -/
theorem readCount_cases (rows : List Row) :
    (∃ count, TellsCount rows count ∧ readCount rows = .ok count) ∨
      ∃ fault, Untold rows fault ∧ readCount rows = .error (.decode "count" fault) := by
  unfold readCount
  cases held : rows.head?.bind (Row.get? · countColumn) with
  | none => exact .inr ⟨_, .noCount (Option.bind_eq_none_iff.mp held), rfl⟩
  | some value =>
    obtain ⟨row, first, held⟩ := Option.bind_eq_some_iff.mp held
    dsimp only
    cases reads : countOf value with
    | some count => exact .inl ⟨count, (tellsCount_iff first held).mpr reads, rfl⟩
    | none =>
      refine .inr ⟨_, .countNotInteger first held fun count tells => ?_, rfl⟩
      rw [(tellsCount_iff first held).mp tells] at reads
      cases reads

theorem tellsCount_of_readCount {rows : List Row} {count : Int} (read : readCount rows = .ok count) :
    TellsCount rows count := by
  rcases readCount_cases rows with ⟨other, tells, read'⟩ | ⟨fault, -, read'⟩
  · cases read.symm.trans read'
    exact tells
  · cases read.symm.trans read'

theorem Untold.readCount {rows : List Row} {fault : DecodeFault} (untold : Untold rows fault) :
    FluentSql.readCount rows = .error (.decode "count" fault) := by
  cases untold with
  | noCount missing =>
    have absent : rows.head?.bind (Row.get? · countColumn) = none :=
      Option.bind_eq_none_iff.mpr missing
    rw [FluentSql.readCount, absent]
    rfl
  | @countNotInteger row value first held untold =>
    have present : rows.head?.bind (Row.get? · countColumn) = some value := by
      rw [first]
      exact held
    have unread : countOf value = none := Option.eq_none_iff_forall_ne_some.mpr fun count reads =>
      untold count ((tellsCount_iff first held).mpr reads)
    rw [FluentSql.readCount, present]
    dsimp only
    rw [unread]
    rfl

theorem readCount_eq_error_iff {rows : List Row} {error : Error} :
    readCount rows = .error error ↔ ∃ fault, Untold rows fault ∧ error = .decode "count" fault := by
  constructor
  · intro unread
    rcases readCount_cases rows with ⟨count, -, read⟩ | ⟨fault, untold, read⟩
    · cases unread.symm.trans read
    · cases unread.symm.trans read
      exact ⟨fault, untold, rfl⟩
  · rintro ⟨fault, untold, rfl⟩
    exact untold.readCount

namespace Runner

variable {runner : Runner σ} {plan : Plan} {session start mid done : Session σ} {rows : List Row}
  {error : Error}

/-! ## The parts of a run -/

/-- The rows of the main statement; where there is none, nothing is sent. -/
def mainRows (runner : Runner σ) (plan : Plan) : Run σ (List Row) :=
  match plan.statement with
  | some fragment => runner.fetch fragment
  | none => pure []

/-- All that comes before the count. -/
def prepare (runner : Runner σ) (plan : Plan) : Run σ (Option Json) :=
  if plan.isHead then pure none
  else do
    let rows ← runner.mainRows plan
    runner.shape plan rows

/-- The count, if the plan has one. -/
def countAll (runner : Runner σ) (plan : Plan) : Run σ (Option Int) :=
  match plan.countStatement with
  | some fragment => some <$> runner.fetchCount fragment
  | none => pure none

/-- The preparation and then the count. -/
def course (runner : Runner σ) (plan : Plan) : Run σ Response := do
  let data ← runner.prepare plan
  let count ← runner.countAll plan
  pure (.ok data count)

/-- The session after the warning, if there is one. -/
def opened (runner : Runner σ) (plan : Plan) (session : Session σ) : Session σ :=
  if runner.warns plan then session.log (.unscopedWrite plan.table.name plan.operation) else session

/-- The response to an outcome, and the session in which a failure has been logged. -/
def closed (plan : Plan) : Except Error Response × Session σ → Response × Session σ
  | (.ok response, done) => (response, done)
  | (.error error, done) => (.fail error, done.log (.chainFailed plan.table.name plan.operation error))

theorem runSelect_eq (reads : plan.operation = .select) : runner.runSelect plan = runner.course plan := by
  unfold runSelect course prepare mainRows countAll Plan.isHead
  rw [reads]
  cases plan.statement <;> cases plan.countStatement <;> simp

theorem runWrite_eq (writes : plan.operation.isWrite = true) (uncounted : plan.countStatement = none)
    (session : Session σ) :
    (runner.runWrite plan).run session = (runner.course plan).run (runner.opened plan session) := by
  have shows : plan.isHead = false := by
    rw [Plan.isHead]
    cases operation : plan.operation with
    | select =>
      rw [operation] at writes
      cases writes
    | _ => rfl
  have unfolded : runner.course plan =
      (runner.mainRows plan >>= fun rows =>
        runner.shape plan rows >>= fun data => pure (Response.ok data none)) := by
    rw [course, prepare, shows, countAll, uncounted]
    simp
  rw [unfolded]
  unfold runWrite mainRows opened
  cases plan.statement <;> cases runner.warns plan <;> rfl

/-- A run is its course, after the warning and before the event of a failure. -/
theorem run_eq (uncounted : plan.operation.isWrite → plan.countStatement = none)
    (session : Session σ) :
    runner.run plan session =
      closed plan ((runner.course plan).run (runner.opened plan session)) := by
  have same : (if plan.operation.isWrite then runner.runWrite plan else runner.runSelect plan).run session =
      (runner.course plan).run (runner.opened plan session) := by
    split
    · rename_i writes
      exact runWrite_eq writes (uncounted writes) session
    · rename_i reads
      have reads : plan.operation = .select := by simpa [Operation.isWrite] using reads
      have unwarned : runner.opened plan session = session := by simp [opened, warns, reads]
      rw [runSelect_eq reads, unwarned]
  rw [run, InSession.bind_eq, same]
  cases (runner.course plan).run (runner.opened plan session) with
  | mk outcome done => cases outcome <;> rfl

/-! ## The preparation -/

theorem shape_of_noRow (expects : plan.demand = .one) (session : Session σ) :
    (runner.shape plan []).run session = (.error noRow, session) := by
  rw [shape, RowDemand.take_nil expects]
  rfl

theorem shape_of_enough (enough : plan.demand = .one → rows ≠ []) :
    (runner.shape plan rows).run session =
      ((runner.resolveRows plan.selection.embeds plan.table.name (plan.demand.kept rows)
        session).1.result.map plan.rowData,
        (runner.resolveRows plan.selection.embeds plan.table.name (plan.demand.kept rows) session).2) := by
  rw [shape, RowDemand.take_of_enough enough]
  show ((ExceptT.mk (runner.resolveRows plan.selection.embeds plan.table.name (plan.demand.kept rows) >>=
      fun progress => pure progress.result) : Run σ (List Row)) >>=
      fun rows => pure (plan.rowData rows)).run session = _
  cases resolves : runner.resolveRows plan.selection.embeds plan.table.name (plan.demand.kept rows)
    session with
  | mk progress done =>
    rw [ExceptT.run_bind, InSession.bind_eq]
    have reached : (ExceptT.mk (runner.resolveRows plan.selection.embeds plan.table.name
        (plan.demand.kept rows) >>= fun progress => pure progress.result) : Run σ (List Row)).run session =
        (progress.result, done) := by
      show (_ >>= _ : InSession σ (Except Error (List Row))) session = _
      rw [InSession.bind_eq, resolves]
      rfl
    rw [reached]
    cases progress.result <;> rfl

/-- The ways in which a preparation ends. -/
inductive Prepares (runner : Runner σ) (plan : Plan) (start : Session σ) :
    Except Error (Option Json) × Session σ → Prop
  | head (head : plan.isHead = true) : Prepares runner plan start (.ok none, start)
  | failed {fragment : Fragment} {error : Error} {done : Session σ}
      (sends : plan.statement = some fragment)
      (fails : (runner.fetch fragment).run start = (.error error, done)) :
      Prepares runner plan start (.error error, done)
  | noRow {mid : Session σ} (shows : plan.isHead = false) (expects : plan.demand = .one)
      (returns : (runner.mainRows plan).run start = (.ok [], mid)) :
      Prepares runner plan start (.error noRow, mid)
  | stopped {rows : List Row} {mid done : Session σ} {reached : List Row} {error : Error}
      (shows : plan.isHead = false) (enough : plan.demand = .one → rows ≠ [])
      (returns : (runner.mainRows plan).run start = (.ok rows, mid))
      (resolves : runner.resolveRows plan.selection.embeds plan.table.name (plan.demand.kept rows) mid =
        (⟨reached, some error⟩, done)) :
      Prepares runner plan start (.error error, done)
  | shown {rows : List Row} {mid done : Session σ} {shown : List Row}
      (shows : plan.isHead = false) (enough : plan.demand = .one → rows ≠ [])
      (returns : (runner.mainRows plan).run start = (.ok rows, mid))
      (resolves : runner.resolveRows plan.selection.embeds plan.table.name (plan.demand.kept rows) mid =
        (⟨shown, none⟩, done)) :
      Prepares runner plan start (.ok (plan.rowData shown), done)

theorem prepares (runner : Runner σ) (plan : Plan) (start : Session σ) :
    Prepares runner plan start ((runner.prepare plan).run start) := by
  cases shows : plan.isHead with
  | true =>
    rw [prepare, if_pos shows]
    exact .head shows
  | false =>
    rw [prepare, if_neg (by rw [shows]; decide)]
    cases returns : (runner.mainRows plan).run start with
    | mk outcome mid =>
      cases outcome with
      | error error =>
        rw [Run.bind_of_error returns]
        rw [mainRows] at returns
        split at returns
        · rename_i sends
          exact .failed sends returns
        · cases returns
      | ok rows =>
        rw [Run.bind_of_ok returns]
        by_cases enough : plan.demand = .one → rows ≠ []
        · rw [shape_of_enough enough]
          cases resolves : runner.resolveRows plan.selection.embeds plan.table.name
            (plan.demand.kept rows) mid with
          | mk progress done =>
            obtain ⟨reached, stopped⟩ := progress
            cases stopped with
            | none => exact .shown shows enough returns resolves
            | some error => exact .stopped shows enough returns resolves
        · obtain ⟨expects, empty⟩ := Classical.not_imp.mp enough
          rw [Decidable.not_not.mp empty] at returns ⊢
          rw [shape_of_noRow expects]
          exact .noRow shows expects returns

/-- Where nothing is sent, and so no row returned, no embed is resolved. -/
theorem prepare_of_unsent (unsent : plan.statement = none) {outcome : Except Error (Option Json)}
    (prepared : (runner.prepare plan).run start = (outcome, done)) : done = start := by
  have nothing : (runner.mainRows plan).run start = (.ok [], start) := by
    rw [mainRows, unsent]
    rfl
  have untouched : runner.resolveRows plan.selection.embeds plan.table.name (plan.demand.kept []) start =
      (⟨[], none⟩, start) := by
    cases plan.demand <;> rfl
  have ends := runner.prepares plan start
  rw [prepared] at ends
  cases ends with
  | head => rfl
  | failed sends =>
    rw [unsent] at sends
    cases sends
  | noRow _ _ returns =>
    rw [nothing] at returns
    cases returns
    rfl
  | stopped _ _ returns resolves =>
    rw [nothing] at returns
    cases returns
    rw [untouched] at resolves
    cases resolves
  | shown _ _ returns resolves =>
    rw [nothing] at returns
    cases returns
    rw [untouched] at resolves
    cases resolves
    rfl

/-- What may stop a run before the count: the main statement fails, a row is expected and there is
none, or an embed cannot be resolved. -/
inductive Stops (runner : Runner σ) (plan : Plan) (start : Session σ) : Error → Prop
  | statement {fragment : Fragment} {error : Error} {done : Session σ}
      (sends : plan.statement = some fragment)
      (fails : (runner.fetch fragment).run start = (.error error, done)) :
      Stops runner plan start error
  | noRow {mid : Session σ} (shows : plan.isHead = false) (expects : plan.demand = .one)
      (returns : (runner.mainRows plan).run start = (.ok [], mid)) :
      Stops runner plan start noRow
  | embeds {rows : List Row} {mid done : Session σ} {reached : List Row} {error : Error}
      (shows : plan.isHead = false)
      (returns : (runner.mainRows plan).run start = (.ok rows, mid))
      (resolves : runner.resolveRows plan.selection.embeds plan.table.name (plan.demand.kept rows) mid =
        (⟨reached, some error⟩, done)) :
      Stops runner plan start error

/-- A run stops before the count just when its preparation fails. -/
theorem stops_iff :
    runner.Stops plan start error ↔ ∃ done, (runner.prepare plan).run start = (.error error, done) := by
  constructor
  · intro stops
    cases stops with
    | @statement fragment _ done sends fails =>
      have shows : plan.isHead = false := by rw [Plan.isHead, sends]; simp
      have main : (runner.mainRows plan).run start = (.error error, done) := by
        rw [mainRows, sends]
        exact fails
      rw [prepare, if_neg (by rw [shows]; decide)]
      exact ⟨done, Run.bind_of_error main _⟩
    | @noRow mid shows expects returns =>
      rw [prepare, if_neg (by rw [shows]; decide), Run.bind_of_ok returns, shape_of_noRow expects]
      exact ⟨mid, rfl⟩
    | @embeds rows mid done reached _ shows returns resolves =>
      have enough : plan.demand = .one → rows ≠ [] := by
        rintro expects rfl
        rw [expects] at resolves
        cases resolves
      rw [prepare, if_neg (by rw [shows]; decide), Run.bind_of_ok returns, shape_of_enough enough,
        resolves]
      exact ⟨done, rfl⟩
  · rintro ⟨done, fails⟩
    have ends := runner.prepares plan start
    rw [fails] at ends
    cases ends with
    | failed sends fails => exact .statement sends fails
    | noRow shows expects returns => exact .noRow shows expects returns
    | stopped shows _ returns resolves => exact .embeds shows returns resolves

/-! ## Failures -/

/-- What may make a run fail: it stops before the count, the counting statement fails, or its answer
does not tell the count. -/
inductive Fails (runner : Runner σ) (plan : Plan) (start : Session σ) : Error → Prop
  | stops {error : Error} (stops : runner.Stops plan start error) : Fails runner plan start error
  | count {data : Option Json} {mid done : Session σ} {fragment : Fragment} {error : Error}
      (prepared : (runner.prepare plan).run start = (.ok data, mid))
      (counts : plan.countStatement = some fragment)
      (fails : (runner.fetch fragment).run mid = (.error error, done)) :
      Fails runner plan start error
  | untold {data : Option Json} {mid done : Session σ} {fragment : Fragment} {rows : List Row}
      {fault : DecodeFault} (prepared : (runner.prepare plan).run start = (.ok data, mid))
      (counts : plan.countStatement = some fragment)
      (answers : (runner.fetch fragment).run mid = (.ok rows, done)) (untold : Untold rows fault) :
      Fails runner plan start (.decode "count" fault)

/-- The ways in which a count ends. -/
inductive CountsAll (runner : Runner σ) (plan : Plan) (start : Session σ) :
    Except Error (Option Int) × Session σ → Prop
  | uncounted (uncounted : plan.countStatement = none) : CountsAll runner plan start (.ok none, start)
  | failed {fragment : Fragment} {error : Error} {done : Session σ}
      (counts : plan.countStatement = some fragment)
      (fails : (runner.fetch fragment).run start = (.error error, done)) :
      CountsAll runner plan start (.error error, done)
  | read {fragment : Fragment} {rows : List Row} {done : Session σ}
      (counts : plan.countStatement = some fragment)
      (answers : (runner.fetch fragment).run start = (.ok rows, done)) :
      CountsAll runner plan start ((readCount rows).map some, done)

theorem fetchCount_of_ok {fragment : Fragment}
    (answers : (runner.fetch fragment).run start = (.ok rows, done)) :
    (some <$> runner.fetchCount fragment).run start = ((readCount rows).map some, done) := by
  rw [map_eq_pure_bind, fetchCount, bind_assoc, Run.bind_of_ok answers]
  show (ExceptT.mk (pure (readCount rows)) >>= fun count => pure (some count) : Run σ _).run done = _
  rw [ExceptT.run_bind, InSession.bind_eq]
  cases readCount rows <;> rfl

theorem countsAll (runner : Runner σ) (plan : Plan) (start : Session σ) :
    CountsAll runner plan start ((runner.countAll plan).run start) := by
  cases counts : plan.countStatement with
  | none =>
    rw [countAll, counts]
    exact .uncounted counts
  | some fragment =>
    rw [countAll, counts]
    dsimp only
    cases answers : (runner.fetch fragment).run start with
    | mk outcome done =>
      cases outcome with
      | error error =>
        rw [map_eq_pure_bind, fetchCount, bind_assoc, Run.bind_of_error answers]
        exact .failed counts answers
      | ok rows =>
        rw [fetchCount_of_ok answers]
        exact .read counts answers

theorem course_of_prepared {data : Option Json}
    (prepared : (runner.prepare plan).run start = (.ok data, mid)) :
    (runner.course plan).run start =
      (((runner.countAll plan).run mid).1.map (Response.ok data), ((runner.countAll plan).run mid).2) := by
  rw [course, Run.bind_of_ok prepared, ExceptT.run_bind, InSession.bind_eq]
  cases (runner.countAll plan).run mid with
  | mk outcome done => cases outcome <;> rfl

/-- A run fails just when its course does. -/
theorem fails_iff :
    runner.Fails plan start error ↔ ∃ done, (runner.course plan).run start = (.error error, done) := by
  constructor
  · intro fails
    cases fails with
    | stops stops =>
      obtain ⟨done, fails⟩ := stops_iff.mp stops
      exact ⟨done, Run.bind_of_error fails _⟩
    | @count data mid done fragment _ prepared counts fails =>
      rw [course_of_prepared prepared, countAll, counts]
      refine ⟨done, ?_⟩
      dsimp only
      rw [map_eq_pure_bind, fetchCount, bind_assoc, Run.bind_of_error fails]
      rfl
    | @untold data mid done fragment rows fault prepared counts answers untold =>
      have unread := readCount_eq_error_iff.mpr ⟨fault, untold, rfl⟩
      rw [course_of_prepared prepared, countAll, counts]
      refine ⟨done, ?_⟩
      dsimp only
      rw [fetchCount_of_ok answers, unread]
      rfl
  · rintro ⟨done, fails⟩
    cases prepared : (runner.prepare plan).run start with
    | mk outcome mid =>
      cases outcome with
      | error stopped =>
        rw [course, Run.bind_of_error prepared] at fails
        cases fails
        exact .stops (stops_iff.mpr ⟨_, prepared⟩)
      | ok data =>
        rw [course_of_prepared prepared] at fails
        have ends := runner.countsAll plan mid
        generalize (runner.countAll plan).run mid = outcome at ends fails
        cases ends with
        | uncounted => cases fails
        | failed counts unanswered =>
          cases fails
          exact .count prepared counts unanswered
        | @read fragment rows _ counts answers =>
          cases unread : readCount rows with
          | ok count =>
            rw [unread] at fails
            cases fails
          | error fault =>
            rw [unread] at fails
            cases fails
            obtain ⟨fault, untold, rfl⟩ := readCount_eq_error_iff.mp unread
            exact .untold prepared counts answers untold

end Runner

end FluentSql
