import FluentSql.Connection.Transaction
import FluentSql.Proofs.Run.Law
import FluentSql.Proofs.Run.Viewed

/-!
# Transactions begin once and end once

A transaction that begins is ended by one command, after all statements of its work: by a commit if
the work came to its end, and by a rollback if it failed. This holds for every connection: any
command and any statement may fail, and nothing is assumed of what the connection does afterwards.

Results:
1. `Connection.perform_handsOver`: work hands over the statements of its chains and queries, and
   neither begins nor ends a transaction.
2. `Unrecorded.transaction`: a record of what is handed over changes nothing.
3. `Connection.perform_doneUpTo`: work is done in order up to its first failure.
4. `Connection.transaction_allOrNothing`: how a transaction goes.
-/

namespace FluentSql

variable {σ α β : Type}

/-! ## What is handed over -/

/-- What a connection is handed. -/
inductive Handed where
  | command (command : Command)
  | statement (sql : String) (params : List Json)

/-- What a connection is handed for a request: the statement that has its rows as JSON. -/
def Request.handed (request : Request) : Handed :=
  .statement (jsonRowsSql request.sql) request.params

/-- A connection that keeps what it was handed, in order, whatever became of it. -/
def Connection.recording (connection : Connection σ) : Connection (σ × List Handed) where
  command command := fun (state, handed) =>
    let (outcome, state) := connection.command command state
    (outcome, state, handed ++ [.command command])
  execute sql params := fun (state, handed) =>
    let (outcome, state) := connection.execute sql params state
    (outcome, state, handed ++ [.statement sql params])

namespace Connection

/-- The requests that a piece of work makes up to its answer. A chain without a plan makes none. One
with a plan makes that of its statement, those of its embeds, and that of the count, which comes last
if the chain succeeds and may be missing if it fails. A query makes one. -/
inductive Requests (connection : Connection σ) : Work → Answer → List Request → Prop
  | unplanned {settings : Settings} {chain : Chain} {error : Error} {response : Response}
      (fails : chain.plan = .error error) :
      Requests connection (.chain settings chain) (.response response) []
  | planned {settings : Settings} {chain : Chain} {plan : Plan} {response : Response}
      {probes counts : List Request} (planned : chain.plan = .ok plan)
      (asked : ∀ request ∈ probes,
        Runner.Asks ⟨connection.client, settings⟩ plan.selection.embeds request)
      (unasked : plan.statement = none → probes = [])
      (counted : counts = [] ∧ response.error.isSome ∨
        counts = plan.countStatement.toList.map (Runner.request ⟨connection.client, settings⟩)) :
      Requests connection (.chain settings chain) (.response response)
        (plan.statement.toList.map (Runner.request ⟨connection.client, settings⟩) ++ probes ++ counts)
  | query {sql : String} {params : List Json} {outcome : Except Error (List Row)} :
      Requests connection (.query sql params) (.rows outcome) [⟨none, sql, params⟩]

/-- What is handed over for work that got answers: its requests, piece by piece. What got no answer was
not done. -/
inductive HandsOver (connection : Connection σ) : List Work → List Answer → List Handed → Prop
  | nil (undone : List Work) : HandsOver connection undone [] []
  | cons {piece : Work} {answer : Answer} {requests : List Request} {rest : List Work}
      {answers : List Answer} {handed : List Handed}
      (first : connection.Requests piece answer requests)
      (later : HandsOver connection rest answers handed) :
      HandsOver connection (piece :: rest) (answer :: answers) (requests.map Request.handed ++ handed)

variable {connection : Connection σ}

/-- A chain that is run by a client which has received nothing yet makes its requests. -/
theorem requests_runChain (connection : Connection σ) (settings : Settings) (chain : Chain)
    (start : Session (σ × List Request)) (fresh : start.client.2 = []) :
    connection.Requests (.chain settings chain)
      (.response (Runner.runChain ⟨connection.client.recording, settings⟩ chain start).1)
      (Runner.runChain ⟨connection.client.recording, settings⟩ chain start).2.client.2 := by
  rw [Runner.runChain]
  cases planned : chain.plan with
  | error error =>
    dsimp only
    rw [show (pure (Response.fail error) : InSession (σ × List Request) Response) start =
      (.fail error, start) from rfl, fresh]
    exact .unplanned planned
  | ok plan =>
    have lawful := Runner.run_lawful planned connection.client settings start
    obtain ⟨probes, counts, asked, unasked, counted, received⟩ := lawful.requests
    dsimp only
    rw [received, fresh, List.nil_append]
    refine .planned planned asked unasked ?_
    rcases counted with ⟨⟨error, stops⟩, uncounted⟩ | ⟨-, counted⟩
    · exact .inl ⟨uncounted, lawful.fails.mpr ⟨error, .stops stops⟩⟩
    · exact .inr counted

/-- What a connection has been handed, by what its client has received since. -/
def handedAfter (before : List Handed) (client : σ × List Request) : σ × List Handed :=
  (client.1, before ++ client.2.map Request.handed)

/-- A connection is handed the requests that its client receives. -/
theorem recording_seenAs_client (connection : Connection σ) (before : List Handed) :
    connection.client.recording.SeenAs (handedAfter before) connection.recording.client := by
  rintro request ⟨state, received⟩
  show (_, _, _ ++ [request.handed]) = (_, _, before ++ (received ++ [request]).map Request.handed)
  rw [List.map_append, ← List.append_assoc]
  rfl

theorem runChain_handsOver (connection : Connection σ) (settings : Settings) (chain : Chain)
    (session : Session (σ × List Handed)) :
    ∃ requests, connection.Requests (.chain settings chain)
        (.response (connection.recording.runChain settings chain session).1) requests ∧
      (connection.recording.runChain settings chain session).2.client.2 =
        session.client.2 ++ requests.map Request.handed := by
  let start : Session (σ × List Request) := ⟨(session.client.1, []), session.events⟩
  have seen :=
    Viewed.runChain (connection.recording_seenAs_client session.client.2) settings chain start
  have same : start.viewed (handedAfter session.client.2) = session := by
    show (⟨(_, session.client.2 ++ []), _⟩ : Session (σ × List Handed)) = session
    rw [List.append_nil]
  rw [same] at seen
  have asked := connection.requests_runChain settings chain start rfl
  refine ⟨(Runner.runChain ⟨connection.client.recording, settings⟩ chain start).2.client.2, ?_, ?_⟩
  · rw [runChain, seen]
    exact asked
  · rw [runChain, seen]
    rfl

theorem query_eq (connection : Connection σ) (sql : String) (params : List Json)
    (session : Session σ) :
    connection.query sql params session =
      ((connection.client.answer ⟨none, sql, params⟩ session.client).1,
        ⟨(connection.client.answer ⟨none, sql, params⟩ session.client).2, session.events⟩) := rfl

theorem query_handsOver (connection : Connection σ) (sql : String) (params : List Json)
    (session : Session (σ × List Handed)) :
    (connection.recording.query sql params session).2.client.2 =
      session.client.2 ++ [Request.handed ⟨none, sql, params⟩] := by
  rw [query_eq]
  rfl

/-- The work that is left hands over its statements, unless the answer tells of a failure. -/
theorem thenDo_handsOver {piece : Work} {answer : Answer} {requests : List Request} {rest : List Work}
    {later : InSession (σ × List Handed) Journal} (first : connection.Requests piece answer requests)
    (goesOn : ∀ session, ∃ handed, connection.HandsOver rest (later session).1.answers handed ∧
      (later session).2.client.2 = session.client.2 ++ handed)
    {session begun : Session (σ × List Handed)}
    (handed : begun.client.2 = session.client.2 ++ requests.map Request.handed) :
    ∃ statements,
      connection.HandsOver (piece :: rest) (answer.thenDo later begun).1.answers statements ∧
      (answer.thenDo later begun).2.client.2 = session.client.2 ++ statements := by
  unfold Answer.thenDo
  cases answer.failure? with
  | some failure => exact ⟨_, .cons first (.nil rest), by rw [List.append_nil, ← handed]; rfl⟩
  | none =>
    obtain ⟨statements, rest, received⟩ := goesOn begun
    refine ⟨_, .cons first rest, ?_⟩
    rw [← List.append_assoc, ← handed]
    exact received

/-- Work hands over the statements of what is done of it. -/
theorem perform_handsOver (connection : Connection σ) (work : List Work)
    (session : Session (σ × List Handed)) :
    ∃ handed, connection.HandsOver work (connection.recording.perform work session).1.answers handed ∧
      (connection.recording.perform work session).2.client.2 = session.client.2 ++ handed := by
  induction work generalizing session with
  | nil => exact ⟨[], .nil [], (List.append_nil _).symm⟩
  | cons piece rest ih =>
    cases piece with
    | chain settings chain =>
      obtain ⟨requests, asked, handed⟩ := connection.runChain_handsOver settings chain session
      exact thenDo_handsOver asked ih handed
    | query sql params =>
      exact thenDo_handsOver .query ih (connection.query_handsOver sql params session)
    | fail error => exact ⟨[], .nil _, (List.append_nil _).symm⟩

end Connection

/-! ## What is logged -/

/-- The event tells of a rollback that failed. -/
def Event.isRollback : Event → Bool
  | .rollbackFailed _ => true
  | _ => false

theorem Event.isRollback_of_isStep {event : Event} (step : event.isStep = true) :
    event.isRollback = false := by
  cases event <;> first | rfl | cases step

/-- The work logs no rollback. -/
def Quiet (work : InSession σ α) : Prop :=
  ∀ session, ∃ logged, (∀ event ∈ logged, event.isRollback = false) ∧
    (work session).2.events = session.events ++ logged

namespace Quiet

theorem pure (value : α) : Quiet (Pure.pure value : InSession σ α) :=
  fun _ => ⟨[], List.forall_mem_nil _, (List.append_nil _).symm⟩

theorem bind {work : InSession σ α} {next : α → InSession σ β} (first : Quiet work)
    (later : ∀ value, Quiet (next value)) : Quiet (work >>= next) := by
  intro session
  obtain ⟨logged, apart, events⟩ := first session
  obtain ⟨logged', apart', events'⟩ := later (work session).1 (work session).2
  refine ⟨logged ++ logged', List.forall_mem_append.mpr ⟨apart, apart'⟩, ?_⟩
  rw [InSession.bind_eq, events', events, List.append_assoc]

theorem log {event : Event} (apart : event.isRollback = false) :
    Quiet (logEvent event : InSession σ Unit) :=
  fun _ => ⟨[event], List.forall_mem_singleton.mpr apart, rfl⟩

theorem fetch (runner : Runner σ) (fragment : Fragment) : Quiet (runner.fetch fragment).run := by
  intro session
  rw [Runner.run_fetch]
  exact ⟨[_], List.forall_mem_singleton.mpr rfl, rfl⟩

theorem paired (runner : Runner σ) :
    Paired (fun work (_ : InSession σ _) => Quiet work) runner runner fun _ => True where
  pure := pure
  bind := bind
  convention := rfl
  logs _ step := log (Event.isRollback_of_isStep step)
  sends _ _ _ _ _ fragment _ _ := fetch runner fragment
  inner _ _ _ _ := trivial

theorem runChain (runner : Runner σ) (chain : Chain) : Quiet (runner.runChain chain) := by
  refine (paired runner).runChain ?_
  intro plan _
  exact ⟨fun _ _ => trivial, fun fragment _ => fetch runner fragment,
    fun fragment _ => fetch runner fragment, (paired runner).warning rfl (log rfl)⟩

theorem query (connection : Connection σ) (sql : String) (params : List Json) :
    Quiet (connection.query sql params) := by
  intro session
  rw [Connection.query_eq]
  exact ⟨[], List.forall_mem_nil _, (List.append_nil _).symm⟩

theorem thenDo {rest : InSession σ Journal} (later : Quiet rest) (answer : Answer) :
    Quiet (answer.thenDo rest) := by
  unfold Answer.thenDo
  split
  · exact pure _
  · exact later.bind fun _ => pure _

theorem perform (connection : Connection σ) (work : List Work) : Quiet (connection.perform work) := by
  induction work with
  | nil => exact pure _
  | cons piece rest ih =>
    cases piece with
    | chain settings chain => exact (runChain _ chain).bind fun _ => thenDo ih _
    | query sql params => exact (query connection sql params).bind fun _ => thenDo ih _
    | fail error => exact pure _

end Quiet

/-! ## Nothing changes by the record -/

theorem Connection.recording_seenAs (connection : Connection σ) :
    connection.recording.client.SeenAs Prod.fst connection.client := fun _ _ => rfl

/-- The session without the record. -/
def Session.plain (session : Session (σ × List Handed)) : Session σ :=
  ⟨session.client.1, session.events⟩

/-- The work comes to the same without the record. -/
def Unrecorded (work : InSession (σ × List Handed) α) (plain : InSession σ α) : Prop :=
  ∀ session, plain session.plain = ((work session).1, (work session).2.plain)

namespace Unrecorded

theorem joint : Joint fun (work : InSession (σ × List Handed) _) plain => Unrecorded work plain :=
  Viewed.joint Prod.fst

theorem logs (event : Event) :
    Unrecorded (logEvent event) (logEvent event : InSession σ Unit) := Viewed.log Prod.fst event

theorem send (connection : Connection σ) (command : Command) :
    Unrecorded (connection.recording.send command) (connection.send command) := fun _ => rfl

theorem runChain (connection : Connection σ) (settings : Settings) (chain : Chain) :
    Unrecorded (connection.recording.runChain settings chain)
      (connection.runChain settings chain) :=
  Viewed.runChain connection.recording_seenAs settings chain

theorem query (connection : Connection σ) (sql : String) (params : List Json) :
    Unrecorded (connection.recording.query sql params) (connection.query sql params) := by
  intro session
  rw [Connection.query_eq, Connection.query_eq]
  rfl

theorem thenDo {rest : InSession (σ × List Handed) Journal} {plain : InSession σ Journal}
    (later : Unrecorded rest plain) (answer : Answer) :
    Unrecorded (answer.thenDo rest) (answer.thenDo plain) := by
  unfold Answer.thenDo
  split
  · exact joint.pure _
  · exact joint.bind later fun _ => joint.pure _

theorem perform (connection : Connection σ) (work : List Work) :
    Unrecorded (connection.recording.perform work) (connection.perform work) := by
  induction work with
  | nil => exact joint.pure _
  | cons piece rest ih =>
    cases piece with
    | chain settings chain =>
      exact joint.bind (runChain connection settings chain) fun _ => thenDo ih _
    | query sql params =>
      exact joint.bind (query connection sql params) fun _ => thenDo ih _
    | fail error => exact joint.pure _

theorem transaction {connection : Connection σ} {body : InSession (σ × List Handed) Journal}
    {plain : InSession σ Journal} (same : Unrecorded body plain) :
    Unrecorded (connection.recording.transaction body) (connection.transaction plain) := by
  refine joint.bind (send connection .begin) fun begun => ?_
  cases begun with
  | error cause => exact joint.pure _
  | ok =>
    refine joint.bind same fun journal => ?_
    cases journal.failure with
    | none =>
      refine joint.bind (send connection .commit) fun ended => ?_
      cases ended <;> exact joint.pure _
    | some failure =>
      refine joint.bind (send connection .rollback) fun ended => ?_
      cases ended with
      | ok => exact joint.pure _
      | error cause =>
        exact joint.bind (logs (.rollbackFailed cause)) fun _ => joint.pure _

end Unrecorded

/-! ## Work stops at its first failure -/

/-- The answer is one that such a piece of work gets. -/
def Answer.Suits : Answer → Work → Prop
  | .response _, .chain _ _ => True
  | .rows _, .query _ _ => True
  | _, _ => False

/-- The journal of work that is done in order, up to its first failure if there is one. -/
inductive DoneUpTo : List Work → Journal → Prop
  | done : DoneUpTo [] ⟨[], none⟩
  | givenUp (error : Error) (rest : List Work) :
      DoneUpTo (.fail error :: rest) ⟨[], some (Failure.ofError error)⟩
  | failed {piece : Work} {answer : Answer} {failure : Failure} (rest : List Work) :
      answer.Suits piece → answer.failure? = some failure →
      DoneUpTo (piece :: rest) ⟨[answer], some failure⟩
  | next {piece : Work} {answer : Answer} {rest : List Work} {journal : Journal} :
      answer.Suits piece → answer.failure? = none → DoneUpTo rest journal →
      DoneUpTo (piece :: rest) ⟨answer :: journal.answers, journal.failure⟩

theorem Answer.thenDo_doneUpTo {answer : Answer} {piece : Work} {rest : List Work}
    {later : InSession σ Journal} (suits : answer.Suits piece)
    (goesOn : ∀ session, DoneUpTo rest (later session).1) (session : Session σ) :
    DoneUpTo (piece :: rest) (answer.thenDo later session).1 := by
  unfold thenDo
  cases tells : answer.failure? with
  | some failure => exact .failed rest suits tells
  | none => exact .next suits tells (goesOn session)

theorem Connection.perform_doneUpTo (connection : Connection σ) (work : List Work)
    (session : Session σ) : DoneUpTo work (connection.perform work session).1 := by
  induction work generalizing session with
  | nil => exact .done
  | cons piece rest ih =>
    cases piece with
    | chain settings chain =>
      have suits (response : Response) : Answer.Suits (.response response) (.chain settings chain) :=
        trivial
      rw [perform, InSession.bind_eq]
      exact Answer.thenDo_doneUpTo (suits _) ih _
    | query sql params =>
      have suits (outcome : Except Error (List Row)) :
          Answer.Suits (.rows outcome) (.query sql params) := trivial
      rw [perform, InSession.bind_eq]
      exact Answer.thenDo_doneUpTo (suits _) ih _
    | fail error => exact .givenUp error rest

/-! ## Beginning and ending -/

/-- The command that ends a transaction after its work. -/
def Journal.ending (journal : Journal) : Command :=
  if journal.failure.isNone then .commit else .rollback

/-- How a transaction ends that has begun and done its work. -/
structure EndsOnce (connection : Connection σ) (work : List Work)
    (session : Session (σ × List Handed)) (body : Journal) (worked : Session (σ × List Handed))
    (journal : Journal) (done : Session (σ × List Handed)) : Prop where
  /-- After the begin come the statements of the work, and after these one command. -/
  handed : ∃ statements, connection.HandsOver work body.answers statements ∧
    worked.client.2 = session.client.2 ++ .command .begin :: statements ∧
    done.client.2 = session.client.2 ++ .command .begin :: (statements ++ [.command body.ending])
  answers : journal.answers = body.answers
  succeeds : journal.failure = none ↔
    body.failure = none ∧ (connection.command .commit worked.client.1).1 = .ok ()
  uncommitted : ∀ cause, body.failure = none →
    (connection.command .commit worked.client.1).1 = .error cause →
    journal.failure = some (Failure.ofError (Error.ofDriver cause))
  unchanged : ∀ failure, body.failure = some failure → journal.failure = some failure
  /-- The work tells of no rollback. -/
  quiet : ∃ logged, (∀ event ∈ logged, event.isRollback = false) ∧
    worked.events = session.events ++ logged
  warned : ∀ failure cause, body.failure = some failure →
    (connection.command .rollback worked.client.1).1 = .error cause →
    done.events = worked.events ++ [.rollbackFailed cause]
  unwarned : body.failure = none ∨ (connection.command .rollback worked.client.1).1 = .ok () →
    done.events = worked.events

/-- How a transaction goes: it does not begin and nothing is done, or its work is done up to the
first failure and it ends once. -/
structure AllOrNothing (connection : Connection σ) (work : List Work)
    (session : Session (σ × List Handed)) (journal : Journal) (done : Session (σ × List Handed)) :
    Prop where
  /-- The record changes nothing. -/
  plain : connection.transaction (connection.perform work) session.plain = (journal, done.plain)
  unbegun : ∀ cause state, connection.command .begin session.client.1 = (.error cause, state) →
    journal = ⟨[], some (Failure.ofError (Error.ofDriver cause))⟩ ∧
      done = ⟨(state, session.client.2 ++ [.command .begin]), session.events⟩
  begun : ∀ state, connection.command .begin session.client.1 = (.ok (), state) →
    ∃ body worked,
      connection.recording.perform work
        ⟨(state, session.client.2 ++ [.command .begin]), session.events⟩ = (body, worked) ∧
      DoneUpTo work body ∧ EndsOnce connection work session body worked journal done

namespace Connection

variable {connection : Connection σ} {session worked : Session (σ × List Handed)} {body : Journal}

theorem send_eq (connection : Connection σ) (command : Command)
    (session : Session (σ × List Handed)) :
    connection.recording.send command session =
      ((connection.command command session.client.1).1,
        ⟨((connection.command command session.client.1).2,
          session.client.2 ++ [.command command]), session.events⟩) := rfl

/-- What is left of a transaction when its work is done. -/
def finish (connection : Connection σ) (body : Journal) : InSession σ Journal :=
  match body.failure with
  | none => do
    match ← connection.send .commit with
    | .ok () => pure body
    | .error cause =>
      pure { body with failure := some (Failure.ofError (Error.ofDriver cause)) }
  | some _ => do
    match ← connection.send .rollback with
    | .ok () => pure body
    | .error cause =>
      logEvent (.rollbackFailed cause)
      pure body

theorem transaction_of_begun {start : Session σ} {work : InSession σ Journal} {begun : Session σ}
    (begins : connection.send .begin start = (.ok (), begun)) :
    connection.transaction work start = connection.finish (work begun).1 (work begun).2 := by
  rw [transaction, InSession.bind_eq, begins]
  dsimp only
  rw [InSession.bind_eq]
  unfold finish
  cases (work begun).1.failure <;> rfl

theorem transaction_of_unbegun {start begun : Session σ} {work : InSession σ Journal}
    {cause : DriverError} (fails : connection.send .begin start = (.error cause, begun)) :
    connection.transaction work start =
      (⟨[], some (Failure.ofError (Error.ofDriver cause))⟩, begun) := by
  rw [transaction, InSession.bind_eq, fails]
  rfl

/-- Work that came to its end is followed by a commit, and its journal is kept if that succeeds. -/
theorem finish_of_done (connection : Connection σ) {body : Journal} (done : body.failure = none)
    (worked : Session (σ × List Handed)) :
    connection.recording.finish body worked =
      (match (connection.command .commit worked.client.1).1 with
        | .ok () => body
        | .error cause => { body with failure := some (Failure.ofError (Error.ofDriver cause)) },
        (connection.recording.send .commit worked).2) := by
  unfold finish
  rw [done]
  dsimp only
  rw [InSession.bind_eq, send_eq]
  cases (connection.command .commit worked.client.1).1 <;> rfl

/-- Work that failed is followed by a rollback, and its journal is kept whatever becomes of that. -/
theorem finish_of_failed (connection : Connection σ) {body : Journal} {failure : Failure}
    (failed : body.failure = some failure) (worked : Session (σ × List Handed)) :
    connection.recording.finish body worked =
      (body, match (connection.command .rollback worked.client.1).1 with
        | .ok () => (connection.recording.send .rollback worked).2
        | .error cause =>
          (logEvent (.rollbackFailed cause) (connection.recording.send .rollback worked).2).2) := by
  unfold finish
  rw [failed]
  dsimp only
  rw [InSession.bind_eq, send_eq]
  cases (connection.command .rollback worked.client.1).1 <;> rfl

theorem finish_handed (connection : Connection σ) (body : Journal)
    (worked : Session (σ × List Handed)) :
    (connection.recording.finish body worked).2.client.2 =
      worked.client.2 ++ [.command body.ending] := by
  unfold Journal.ending
  cases failed : body.failure with
  | none =>
    rw [finish_of_done connection failed]
    rfl
  | some failure =>
    rw [finish_of_failed connection failed]
    cases (connection.command .rollback worked.client.1).1 <;> rfl

theorem finish_answers (connection : Connection σ) (body : Journal)
    (worked : Session (σ × List Handed)) :
    (connection.recording.finish body worked).1.answers = body.answers := by
  cases failed : body.failure with
  | none =>
    rw [finish_of_done connection failed]
    dsimp only
    cases (connection.command .commit worked.client.1).1 <;> rfl
  | some failure => rw [finish_of_failed connection failed]

theorem finish_succeeds_iff (connection : Connection σ) (body : Journal)
    (worked : Session (σ × List Handed)) :
    (connection.recording.finish body worked).1.failure = none ↔
      body.failure = none ∧ (connection.command .commit worked.client.1).1 = .ok () := by
  cases failed : body.failure with
  | none =>
    rw [finish_of_done connection failed]
    dsimp only
    cases (connection.command .commit worked.client.1).1 with
    | ok => exact iff_of_true failed ⟨rfl, rfl⟩
    | error cause => exact iff_of_false nofun fun succeeds => nomatch succeeds.2
  | some failure =>
    rw [finish_of_failed connection failed]
    exact iff_of_false (by simp [failed]) fun succeeds => nomatch succeeds.1

/-- Work that hands over its statements is ended once. -/
theorem finish_endsOnce (connection : Connection σ) {work : List Work} (body : Journal)
    {session begun worked : Session (σ × List Handed)} {statements : List Handed}
    (begins : begun = (connection.recording.send .begin session).2)
    (stated : connection.HandsOver work body.answers statements)
    (handed : worked.client.2 = begun.client.2 ++ statements)
    (quiet : ∃ logged, (∀ event ∈ logged, event.isRollback = false) ∧
      worked.events = begun.events ++ logged) :
    EndsOnce connection work session body worked (connection.recording.finish body worked).1
      (connection.recording.finish body worked).2 := by
  subst begins
  have order : worked.client.2 = session.client.2 ++ .command .begin :: statements := by
    rw [handed, send_eq, List.append_assoc]
    rfl
  refine ⟨⟨statements, stated, order, ?_⟩, finish_answers connection body worked,
    finish_succeeds_iff connection body worked, ?_, ?_, quiet, ?_, ?_⟩
  · rw [finish_handed, order, List.append_assoc]
    rfl
  · intro cause done fails
    rw [finish_of_done connection done, fails]
  · intro failure failed
    rw [finish_of_failed connection failed, failed]
  · intro failure cause failed fails
    rw [finish_of_failed connection failed, fails]
    rfl
  · rintro (done | succeeds)
    · rw [finish_of_done connection done]
      rfl
    · cases failed : body.failure with
      | none =>
        rw [finish_of_done connection failed]
        rfl
      | some failure =>
        rw [finish_of_failed connection failed, succeeds]
        rfl

/-- The main result: a transaction does all of its work and ends by a commit, or it stops at the
first failure and ends by a rollback. -/
theorem transaction_allOrNothing (connection : Connection σ) (work : List Work)
    (session : Session (σ × List Handed)) :
    AllOrNothing connection work session
      (connection.recording.transaction (connection.recording.perform work) session).1
      (connection.recording.transaction (connection.recording.perform work) session).2 where
  plain := (Unrecorded.perform connection work).transaction session
  unbegun cause state fails := by
    have unbegun : connection.recording.send .begin session =
        (.error cause, ⟨(state, session.client.2 ++ [.command .begin]), session.events⟩) := by
      rw [send_eq, fails]
    rw [transaction_of_unbegun unbegun]
    exact ⟨rfl, rfl⟩
  begun state succeeds := by
    have begun : connection.recording.send .begin session =
        (.ok (), ⟨(state, session.client.2 ++ [.command .begin]), session.events⟩) := by
      rw [send_eq, succeeds]
    refine ⟨_, _, rfl, connection.recording.perform_doneUpTo work _, ?_⟩
    obtain ⟨statements, stated, handed⟩ := connection.perform_handsOver work
      ⟨(state, session.client.2 ++ [.command .begin]), session.events⟩
    have quiet := Quiet.perform connection.recording work
      ⟨(state, session.client.2 ++ [.command .begin]), session.events⟩
    rw [transaction_of_begun begun]
    exact finish_endsOnce connection _ (by rw [begun]) stated handed quiet

end Connection

end FluentSql
