import FluentSql.Proofs.Embedding.Beside
import FluentSql.Proofs.Run.Course
import FluentSql.Proofs.Run.Keeps

/-!
# The law of runs

A run of the plan of a chain sends the main statement, then statements for embeds, and last the
count. It fails just when one of these does, when a row that is expected is missing, or when the
answer to the count does not tell it. Else it shows the rows in the way the chain requests.

Results:
1. `Runner.course_requests`: what a run sends.
2. `Runner.course_ok`: what a run answers that does not fail.
3. `Runner.run_lawful`: the law.
-/

namespace FluentSql

variable {σ : Type}

/-! ## What is sent -/

/-- An embed of a list, or one inside such an embed. -/
inductive Embed.Within (embeds : List Embed) : Embed → Prop
  | listed {embed : Embed} (present : embed ∈ embeds) : Within embeds embed
  | inside {embed nested : Embed} (within : Within embeds embed) (present : nested ∈ embed.embeds) :
      Within embeds nested

namespace Runner

/-- The request is a statement for one of the embeds, at any depth. -/
def Asks (runner : Runner σ) (embeds : List Embed) (request : Request) : Prop :=
  ∃ embed column value ending fragment, Embed.Within embeds embed ∧
    (ending = "" ∨ ending = " LIMIT 1") ∧ embed.statement column value ending = .ok fragment ∧
    request = runner.request fragment

variable {client : Client σ} {settings : Settings} {plan : Plan}
  {start mid done : Session (σ × List Request)}

theorem fetch_requests {fragment : Fragment} {outcome : Except Error (List Row)}
    (fetched : (fetch ⟨client.recording, settings⟩ fragment).run start = (outcome, done)) :
    done.client.2 = start.client.2 ++ [request ⟨client.recording, settings⟩ fragment] := by
  rw [run_fetch] at fetched
  cases fetched
  rfl

theorem mainRows_requests {outcome : Except Error (List Row)}
    (returns : (mainRows ⟨client.recording, settings⟩ plan).run start = (outcome, done)) :
    done.client.2 =
      start.client.2 ++ plan.statement.toList.map (request ⟨client.recording, settings⟩) := by
  rw [mainRows] at returns
  cases sends : plan.statement with
  | none =>
    rw [sends] at returns
    cases returns
    exact (List.append_nil _).symm
  | some fragment =>
    rw [sends] at returns
    exact fetch_requests returns

theorem resolveRows_requests (client : Client σ) (settings : Settings) (embeds : List Embed)
    (base : String) (rows : List Row) (start : Session (σ × List Request)) :
    ∃ probes, (∀ request ∈ probes, Asks ⟨client.recording, settings⟩ embeds request) ∧
      (resolveRows ⟨client.recording, settings⟩ embeds base rows start).2.client.2 =
        start.client.2 ++ probes := by
  let runner : Runner (σ × List Request) := ⟨client.recording, settings⟩
  let sent (session : Session (σ × List Request)) : Prop :=
    ∃ probes, (∀ request ∈ probes, runner.Asks embeds request) ∧
      session.client.2 = start.client.2 ++ probes
  have conserves : Conserves sent runner (Embed.Within embeds) := by
    refine ⟨fun _ _ holds => holds, ?_, fun _ within _ present => .inside within present⟩
    rintro embed within column value ending fragment known written session ⟨probes, asked, same⟩
    refine ⟨probes ++ [runner.request fragment], ?_, ?_⟩
    · refine List.forall_mem_append.mpr ⟨asked, List.forall_mem_singleton.mpr ?_⟩
      exact ⟨embed, column, value, ending, fragment, within, known, written, rfl⟩
    · have received : ((runner.fetch fragment).run session).2.client.2 =
          session.client.2 ++ [runner.request fragment] := fetch_requests rfl
      rw [received, same, List.append_assoc]
  exact conserves.resolveRows embeds (fun _ present => .listed present) base rows start
    ⟨[], by simp, (List.append_nil _).symm⟩

theorem prepare_requests {outcome : Except Error (Option Json)}
    (prepared : (prepare ⟨client.recording, settings⟩ plan).run start = (outcome, done)) :
    ∃ probes, (∀ request ∈ probes, Asks ⟨client.recording, settings⟩ plan.selection.embeds request) ∧
      (plan.statement = none → probes = []) ∧
      done.client.2 = start.client.2 ++
        plan.statement.toList.map (request ⟨client.recording, settings⟩) ++ probes := by
  by_cases unsent : plan.statement = none
  · rw [prepare_of_unsent unsent prepared]
    exact ⟨[], by simp, fun _ => rfl, by simp [unsent]⟩
  have ends := prepares ⟨client.recording, settings⟩ plan start
  rw [prepared] at ends
  cases ends with
  | head head =>
    rw [Plan.isHead, Bool.and_eq_true, Option.isNone_iff_eq_none] at head
    exact absurd head.2 unsent
  | failed sends fails => exact ⟨[], by simp, fun _ => rfl, by simp [sends, fetch_requests fails]⟩
  | noRow _ _ returns => exact ⟨[], by simp, fun _ => rfl, by simp [mainRows_requests returns]⟩
  | @stopped rows mid done _ _ _ _ returns resolves | @shown rows mid done _ _ _ returns resolves =>
    obtain ⟨probes, asked, sent⟩ := resolveRows_requests client settings plan.selection.embeds
      plan.table.name (plan.demand.kept rows) mid
    rw [resolves, mainRows_requests returns] at sent
    exact ⟨probes, asked, fun none => absurd none unsent, sent⟩

theorem countAll_requests {outcome : Except Error (Option Int)}
    (counted : (countAll ⟨client.recording, settings⟩ plan).run start = (outcome, done)) :
    done.client.2 =
      start.client.2 ++ plan.countStatement.toList.map (request ⟨client.recording, settings⟩) := by
  have ends := countsAll ⟨client.recording, settings⟩ plan start
  rw [counted] at ends
  cases ends with
  | uncounted uncounted => simp [uncounted]
  | failed counts fails => simp [counts, fetch_requests fails]
  | read counts answers => simp [counts, fetch_requests answers]

theorem course_requests {outcome : Except Error Response}
    (ran : (course ⟨client.recording, settings⟩ plan).run start = (outcome, done)) :
    ∃ probes counts, (∀ request ∈ probes, Asks ⟨client.recording, settings⟩ plan.selection.embeds request) ∧
      (plan.statement = none → probes = []) ∧
      ((∃ error, Stops ⟨client.recording, settings⟩ plan start error) ∧ counts = [] ∨
        (∀ error, ¬ Stops ⟨client.recording, settings⟩ plan start error) ∧
          counts = plan.countStatement.toList.map (request ⟨client.recording, settings⟩)) ∧
      done.client.2 = start.client.2 ++
        plan.statement.toList.map (request ⟨client.recording, settings⟩) ++ probes ++ counts := by
  cases prepared : (prepare ⟨client.recording, settings⟩ plan).run start with
  | mk outcome mid =>
    obtain ⟨probes, asked, silent, sent⟩ := prepare_requests prepared
    cases outcome with
    | error error =>
      rw [course, Run.bind_of_error prepared] at ran
      cases ran
      have stops : Stops ⟨client.recording, settings⟩ plan start error := stops_iff.mpr ⟨_, prepared⟩
      exact ⟨probes, [], asked, silent, .inl ⟨⟨error, stops⟩, rfl⟩, by simp [sent]⟩
    | ok data =>
      rw [course_of_prepared prepared] at ran
      cases counted : (countAll ⟨client.recording, settings⟩ plan).run mid with
      | mk count last =>
        rw [counted] at ran
        cases ran
        refine ⟨probes, _, asked, silent, .inr ⟨?_, rfl⟩, ?_⟩
        · intro error stops
          obtain ⟨_, fails⟩ := stops_iff.mp stops
          rw [prepared] at fails
          cases fails
        · rw [countAll_requests counted, sent]

end Runner

/-! ## The law -/

namespace Runner

variable {runner : Runner σ} {chain : Chain} {plan : Plan} {session start done : Session σ}

/-- A row as it is after its embeds have been resolved in it. -/
def Completes (runner : Runner σ) (plan : Plan) (row result : Row) : Prop :=
  ∃ before after, runner.resolveRow plan.selection.embeds plan.table.name row before =
    (⟨result, none⟩, after)

/-- The data of a success: none for a select that is to return no rows, an object for a caller who
expects one, an object or none for a caller who expects at most one and for one inserted object, and
an array of all rows else. -/
inductive Shows (runner : Runner σ) (chain : Chain) (plan : Plan) (start : Session σ) :
    Option Json → Prop
  | head (head : chain.extras.headOnly = true) : Shows runner chain plan start none
  | one {row : Row} {rest : List Row} {mid : Session σ} {result : Row}
      (shows : chain.extras.headOnly = false) (expects : plan.demand = .one)
      (returns : (runner.mainRows plan).run start = (.ok (row :: rest), mid))
      (completes : runner.Completes plan row result) :
      Shows runner chain plan start (some (.object result))
  | atMostOne {rows : List Row} {mid : Session σ} {results : List Row}
      (shows : chain.extras.headOnly = false)
      (single : plan.demand = .atMostOne ∨
        plan.demand = .many ∧ ∃ call ∈ chain.calls, call.InsertsObject)
      (returns : (runner.mainRows plan).run start = (.ok rows, mid))
      (completes : List.Forall₂ (runner.Completes plan) (plan.demand.kept rows) results) :
      Shows runner chain plan start (results.head?.map .object)
  | all {rows : List Row} {mid : Session σ} {results : List Row}
      (shows : chain.extras.headOnly = false) (expects : plan.demand = .many)
      (batch : ∀ call ∈ chain.calls, ¬ call.InsertsObject)
      (returns : (runner.mainRows plan).run start = (.ok rows, mid))
      (completes : List.Forall₂ (runner.Completes plan) rows results) :
      Shows runner chain plan start (some (.array (results.map .object)))

theorem resolveRows_completes {rows results : List Row}
    (resolves : runner.resolveRows plan.selection.embeds plan.table.name rows start =
      (⟨results, none⟩, done)) : List.Forall₂ (runner.Completes plan) rows results := by
  refine (eachRow_ok resolves).imp ?_
  rintro row result ⟨before, after, worked⟩
  exact ⟨before, after, worked⟩

/-- What is shown of rows, by what was expected of them and how they were given. -/
theorem shows_of_rows (meets : plan.Meets chain) {rows results : List Row} {mid : Session σ}
    (shows : plan.isHead = false) (enough : plan.demand = .one → rows ≠ [])
    (returns : (runner.mainRows plan).run start = (.ok rows, mid))
    (completes : List.Forall₂ (runner.Completes plan) (plan.demand.kept rows) results) :
    runner.Shows chain plan start (plan.rowData results) := by
  rw [meets.head] at shows
  rw [Plan.rowData, Plan.showsOneRow]
  cases expects : plan.demand with
  | one =>
    rw [expects] at completes
    cases rows with
    | nil => exact absurd rfl (enough expects)
    | cons row rest =>
      cases completes with
      | cons completes others =>
        cases others
        exact .one shows expects returns completes
  | atMostOne => exact .atMostOne shows (.inl expects) returns completes
  | many =>
    by_cases object : plan.input = some .object
    · rw [object]
      exact .atMostOne shows (.inr ⟨expects, meets.object.mp object⟩) returns completes
    · have batch : ∀ call ∈ chain.calls, ¬ call.InsertsObject := by
        intro call present inserts
        exact object (meets.object.mpr ⟨call, present, inserts⟩)
      rw [beq_false_of_ne object]
      rw [expects] at completes
      exact .all shows expects batch returns completes

theorem shows_of_prepared (meets : plan.Meets chain) {data : Option Json}
    (prepared : (runner.prepare plan).run start = (.ok data, done)) :
    runner.Shows chain plan start data := by
  have ends := runner.prepares plan start
  rw [prepared] at ends
  cases ends with
  | head head => exact .head (meets.head.symm.trans head)
  | shown shows enough returns resolves =>
    exact shows_of_rows meets shows enough returns (resolveRows_completes resolves)

/-- The count of a success: none unless one is requested, and else the one that the answer to the
counting statement tells. -/
inductive Counts (runner : Runner σ) (chain : Chain) (plan : Plan) (start : Session σ) :
    Option Int → Prop
  | uncounted (unrequested : chain.extras.exactCount = false) : Counts runner chain plan start none
  | counted {data : Option Json} {mid done : Session σ} {fragment : Fragment} {rows : List Row}
      {count : Int} (requested : chain.extras.exactCount = true)
      (prepared : (runner.prepare plan).run start = (.ok data, mid))
      (counts : plan.countStatement = some fragment)
      (answers : (runner.fetch fragment).run mid = (.ok rows, done))
      (tells : TellsCount rows count) : Counts runner chain plan start (some count)

theorem counts_of_prepared (meets : plan.Meets chain) {data : Option Json} {mid : Session σ}
    (prepared : (runner.prepare plan).run start = (.ok data, mid)) {count : Option Int}
    (counted : (runner.countAll plan).run mid = (.ok count, done)) :
    runner.Counts chain plan start count := by
  have requested := meets.counts
  have ends := runner.countsAll plan mid
  generalize outcome : (runner.countAll plan).run mid = result at ends counted
  cases ends with
  | uncounted uncounted =>
    cases counted
    rw [uncounted] at requested
    exact .uncounted requested.symm
  | failed => cases counted
  | read counts answers =>
    obtain ⟨mapped, rfl⟩ := Prod.mk.inj counted
    obtain ⟨told, read, rfl⟩ := map_eq_ok_iff.mp mapped
    rw [counts] at requested
    exact .counted requested.symm prepared counts answers (tellsCount_of_readCount read)

/-- What a successful course answers. -/
theorem course_ok (meets : plan.Meets chain) {response : Response}
    (ran : (runner.course plan).run start = (.ok response, done)) :
    response.error = none ∧ runner.Counts chain plan start response.count ∧
      runner.Shows chain plan start response.data := by
  cases prepared : (runner.prepare plan).run start with
  | mk outcome mid =>
    cases outcome with
    | error error =>
      rw [course, Run.bind_of_error prepared] at ran
      cases ran
    | ok data =>
      rw [course_of_prepared prepared] at ran
      obtain ⟨answered, -⟩ := Prod.mk.inj ran
      obtain ⟨count, counted, rfl⟩ := map_eq_ok_iff.mp answered
      exact ⟨rfl, counts_of_prepared meets prepared (Prod.ext counted rfl),
        shows_of_prepared meets prepared⟩

/-- The law of runs, for a client that keeps the requests it has received. -/
structure Lawful (runner : Runner (σ × List Request)) (chain : Chain) (plan : Plan)
    (session : Session (σ × List Request)) (response : Response)
    (last : Session (σ × List Request)) : Prop where
  /-- The main statement comes first, then statements for embeds, and last the count, unless the run
  has stopped before it. -/
  requests : ∃ probes counts, (∀ request ∈ probes, runner.Asks plan.selection.embeds request) ∧
    (plan.statement = none → probes = []) ∧
    ((∃ error, runner.Stops plan (runner.opened plan session) error) ∧ counts = [] ∨
      (∀ error, ¬ runner.Stops plan (runner.opened plan session) error) ∧
        counts = plan.countStatement.toList.map runner.request) ∧
    last.client.2 =
      session.client.2 ++ plan.statement.toList.map runner.request ++ probes ++ counts
  fails : response.error.isSome ↔ ∃ error, runner.Fails plan (runner.opened plan session) error
  failure : ∀ error, runner.Fails plan (runner.opened plan session) error →
    response.error = some (Failure.ofError error) ∧ response.data = none ∧ response.count = none
  counted : response.error = none → runner.Counts chain plan (runner.opened plan session) response.count
  shown : response.error = none → runner.Shows chain plan (runner.opened plan session) response.data

theorem client_opened (runner : Runner σ) (plan : Plan) (session : Session σ) :
    (runner.opened plan session).client = session.client := by
  rw [opened]
  split <;> rfl

/-- The main result: the plan of a chain is run lawfully, whatever the client answers. -/
theorem run_lawful (planned : chain.plan = .ok plan) (client : Client σ) (settings : Settings)
    (session : Session (σ × List Request)) :
    Lawful ⟨client.recording, settings⟩ chain plan session
      (run ⟨client.recording, settings⟩ plan session).1
      (run ⟨client.recording, settings⟩ plan session).2 := by
  have meets := Chain.plan_meets planned
  let runner : Runner (σ × List Request) := ⟨client.recording, settings⟩
  rw [run_eq meets.uncounted]
  cases ran : (runner.course plan).run (runner.opened plan session) with
  | mk outcome done =>
    have requests := course_requests ran
    rw [client_opened] at requests
    cases outcome with
    | error error =>
      have fails : runner.Fails plan (runner.opened plan session) error := fails_iff.mpr ⟨done, ran⟩
      refine ⟨requests, iff_of_true rfl ⟨error, fails⟩, ?_, nofun, nofun⟩
      intro other fails
      obtain ⟨_, ran'⟩ := fails_iff.mp fails
      rw [ran] at ran'
      cases ran'
      exact ⟨rfl, rfl, rfl⟩
    | ok response =>
      obtain ⟨unfailed, counted, shown⟩ := course_ok meets ran
      have unfailing : ∀ error, ¬ runner.Fails plan (runner.opened plan session) error := by
        intro error fails
        obtain ⟨_, ran'⟩ := fails_iff.mp fails
        rw [ran] at ran'
        cases ran'
      refine ⟨requests, iff_of_false ?_ ?_, ?_, fun _ => counted, fun _ => shown⟩
      · show ¬ response.error.isSome = true
        rw [unfailed]
        decide
      · exact fun ⟨error, fails⟩ => unfailing error fails
      · exact fun error fails => absurd fails (unfailing error)

end Runner

namespace Listings

/-- One listing with its owner is requested, and the number of all. -/
def oneOfAll : Chain :=
  { table := "listings", calls := [.select "*, users!owner_id(id)" ⟨true, false⟩, .one] }

/-- A client that finds a listing and its owner, and counts in text. -/
def client : Client Unit :=
  .ofAnswers fun sql params =>
    if sql = "SELECT COUNT(*) AS \"count\" FROM \"listings\"" then
      .ok [[("count", .string "+0090")]]
    else .ok [[("id", params.headD (.int 1)), ("owner_id", .int 3)]]

theorem oneOfAll_lawful :
    ∃ plan, oneOfAll.plan = .ok plan ∧
      Runner.Lawful ⟨client.recording, .default⟩ oneOfAll plan ⟨((), []), []⟩
        (Runner.run ⟨client.recording, .default⟩ plan ⟨((), []), []⟩).1
        (Runner.run ⟨client.recording, .default⟩ plan ⟨((), []), []⟩).2 ∧
      (Runner.run ⟨client.recording, .default⟩ plan ⟨((), []), []⟩).1.count = some 90 := by
  have counted : oneOfAll.plan.toOption.map (fun plan =>
      (Runner.run ⟨client.recording, .default⟩ plan ⟨((), []), []⟩).1.count) = some (some 90) := by
    decide +kernel
  cases planned : oneOfAll.plan with
  | error error =>
    rw [planned] at counted
    cases counted
  | ok plan =>
    rw [planned] at counted
    exact ⟨plan, rfl, Runner.run_lawful planned client .default ⟨((), []), []⟩,
      Option.some.inj counted⟩

end Listings

end FluentSql
