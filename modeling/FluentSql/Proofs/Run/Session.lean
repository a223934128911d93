import FluentSql.Run.Session

/-!
# Steps in a session

What sequences of steps in a session come to: a step that succeeds hands its value and its session
to the next one, and a step that fails is the last.
-/

namespace FluentSql

variable {σ α β : Type}

/-- The session with one more event. -/
def Session.log (session : Session σ) (event : Event) : Session σ :=
  { session with events := session.events ++ [event] }

theorem InSession.bind_eq (work : InSession σ α) (next : α → InSession σ β) (session : Session σ) :
    (work >>= next) session = next (work session).1 (work session).2 := rfl

namespace Run

variable {work : Run σ α} {session done : Session σ}

theorem bind_of_ok {value : α} (succeeds : work.run session = (.ok value, done))
    (next : α → Run σ β) : (work >>= next).run session = (next value).run done := by
  rw [ExceptT.run_bind, InSession.bind_eq, succeeds]

theorem bind_of_error {error : Error} (fails : work.run session = (.error error, done))
    (next : α → Run σ β) : (work >>= next).run session = (.error error, done) := by
  rw [ExceptT.run_bind, InSession.bind_eq, fails]
  rfl

end Run

/-- What sending a statement does: the client answers, and the event of the statement is logged. -/
theorem Runner.run_fetch (runner : Runner σ) (fragment : Fragment) (session : Session σ) :
    (runner.fetch fragment).run session =
      ((runner.client.answer (runner.request fragment) session.client).1,
        ⟨(runner.client.answer (runner.request fragment) session.client).2,
          session.events ++ [runner.statementEvent fragment
            (runner.client.answer (runner.request fragment) session.client).1]⟩) := rfl

end FluentSql
