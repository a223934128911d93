import Mathlib.Data.List.Forall2
import FluentSql.Proofs.Run.Cut
import FluentSql.Proofs.Run.Viewed

/-!
# The log of statements

The events of statements in the log stand in the order in which the client has received the
statements, one for each of them, whatever has become of it. They show the tag, the number of values,
the number of rows or the error, and the text, cut where it is too long.

Results:
1. `Tells.fetch`: a statement is told of.
2. `Tells.run`: so are all that a run sends.
3. `Runner.run_told`: the log of a run, which no record changes.
-/

namespace FluentSql

variable {σ α β : Type}

/-! ## What is received and what is told of it -/

/-- A statement that a client has received, and its answer. -/
structure Exchange where
  request : Request
  outcome : Except Error (List Row)

/-- A client that keeps what it has received and answered, in order. -/
def Client.transcribing (client : Client σ) : Client (σ × List Exchange) :=
  ⟨fun request (state, exchanges) =>
    let (outcome, state) := client.answer request state
    (outcome, state, exchanges ++ [⟨request, outcome⟩])⟩

theorem Client.transcribing_seenAs (client : Client σ) :
    client.transcribing.SeenAs Prod.fst client := fun _ _ => rfl

/-- The event tells of a statement. -/
def Event.isStatement (event : Event) : Bool := event.topic == .statement

theorem Event.isStatement_of_isStep {event : Event} (step : event.isStep = true) :
    event.isStatement = false := by
  cases event <;> first | rfl | cases step

/-- What an event says of an answer: the number of rows, or the error. -/
def Exchange.answered (exchange : Exchange) : String × Json :=
  match exchange.outcome with
  | .ok rows => ("rows", .int rows.length)
  | .error error => ("error", .string error.message)

/-- The event shows a statement with its answer. -/
structure Exchange.ToldBy (settings : Settings) (exchange : Exchange) (event : Event) : Prop where
  tag : exchange.request.tag = settings.tag
  fields : ∃ shown, ShownAs exchange.request.sql settings.maxLogged shown ∧
    event.fields =
      [("tag", .string (exchange.request.tag.getD "-")),
        ("param_count", .int exchange.request.params.length), ("sql", .string shown),
        exchange.answered]

theorem Runner.statementEvent_fields (runner : Runner σ) (fragment : Fragment)
    (outcome : Except Error (List Row)) :
    (runner.statementEvent fragment outcome).fields =
      [("tag", .string (runner.settings.tag.getD "-")),
        ("param_count", .int (Fragment.params fragment).length),
        ("sql", .string (loggedText runner.settings.maxLogged (Fragment.sql fragment))),
        Exchange.answered ⟨runner.request fragment, outcome⟩] := by
  cases outcome <;> rfl

/-- Statements are received in the work, and these are the events that tell of them. -/
def Tells (settings : Settings) (work : InSession (σ × List Exchange) α) : Prop :=
  ∀ session, ∃ logged exchanges,
    (work session).2.events = session.events ++ logged ∧
    (work session).2.client.2 = session.client.2 ++ exchanges ∧
    List.Forall₂ (Exchange.ToldBy settings) exchanges (logged.filter Event.isStatement)

namespace Tells

variable {settings : Settings}

theorem joint (settings : Settings) :
    Joint fun (work : InSession (σ × List Exchange) _) (_ : InSession (σ × List Exchange) _) =>
      Tells settings work where
  pure _ _ := ⟨[], [], (List.append_nil _).symm, (List.append_nil _).symm, .nil⟩
  bind := by
    intro _ _ work _ next _ first later session
    obtain ⟨logged, exchanges, events, received, told⟩ := first session
    obtain ⟨logged', exchanges', events', received', told'⟩ :=
      later (work session).1 (work session).2
    refine ⟨logged ++ logged', exchanges ++ exchanges', ?_, ?_, ?_⟩
    · rw [InSession.bind_eq, events', events, List.append_assoc]
    · rw [InSession.bind_eq, received', received, List.append_assoc]
    · rw [List.filter_append]
      exact List.rel_append told told'

theorem log {event : Event} (apart : event.isStatement = false) :
    Tells settings (logEvent event : InSession (σ × List Exchange) Unit) := by
  refine fun session => ⟨[event], [], rfl, (List.append_nil _).symm, ?_⟩
  rw [List.filter_cons_of_neg (by rw [apart]; decide)]
  exact .nil

/-- A statement is told of, whether it fails or not. -/
theorem fetch (client : Client σ) (settings : Settings) (fragment : Fragment) :
    Tells settings (Runner.fetch ⟨client.transcribing, settings⟩ fragment).run := by
  intro session
  rw [Runner.run_fetch]
  refine ⟨[_], [⟨_, (client.answer _ session.client.1).1⟩], rfl, rfl, .cons ⟨rfl, ?_⟩ .nil⟩
  exact ⟨_, shownAs_iff.mpr rfl, Runner.statementEvent_fields _ fragment _⟩

theorem paired (client : Client σ) (settings : Settings) :
    Paired (fun work (_ : InSession (σ × List Exchange) _) => Tells settings work)
      ⟨client.transcribing, settings⟩ ⟨client.transcribing, settings⟩ fun _ => True where
  toJoint := joint settings
  convention := rfl
  logs _ step := log (Event.isStatement_of_isStep step)
  sends _ _ _ _ _ fragment _ _ := fetch client settings fragment
  inner _ _ _ _ := trivial

theorem run (client : Client σ) (settings : Settings) (plan : Plan) :
    Tells settings (Runner.run ⟨client.transcribing, settings⟩ plan) := by
  refine (paired client settings).run ⟨fun _ _ => trivial, fun fragment _ => fetch _ _ fragment,
    fun fragment _ => fetch _ _ fragment, ?_⟩
  -- A warning is no statement.
  exact (joint settings).warning rfl (log rfl)

end Tells

/-- The main result: the statements that the client receives in a run are told of in the log, one
for one and in order, each with its answer. That they are kept changes nothing of the run. However
long a text is, and whatever the limit, it is cut between two characters. -/
theorem Runner.run_told (client : Client σ) (settings : Settings) (plan : Plan)
    (session : Session σ) :
    let kept := run ⟨client.transcribing, settings⟩ plan ⟨(session.client, []), session.events⟩
    run ⟨client, settings⟩ plan session = (kept.1, kept.2.viewed Prod.fst) ∧
      (∃ logged, kept.2.events = session.events ++ logged ∧
        List.Forall₂ (Exchange.ToldBy settings) kept.2.client.2
          (logged.filter Event.isStatement)) ∧
      ∀ text limit, ShownAs text limit (loggedText limit text) := by
  intro kept
  obtain ⟨logged, exchanges, events, received, told⟩ :=
    Tells.run client settings plan ⟨(session.client, []), session.events⟩
  refine ⟨?_, ⟨logged, events, ?_⟩, fun _ _ => shownAs_iff.mpr rfl⟩
  · exact Viewed.run client.transcribing_seenAs settings plan
      ⟨(session.client, []), session.events⟩
  · rw [List.nil_append] at received
    rwa [received]

end FluentSql
