import FluentSql.Connection.Basic
import FluentSql.Run.Execution

/-!
# Transactions

Work that is done as a whole or not at all. A transaction is begun before its work and ended once
after it: committed if the work came to its end, rolled back if it failed.
-/

namespace FluentSql

/-- A piece of work on a connection. -/
inductive Work where
  | chain (settings : Settings) (chain : Chain)
  | query (sql : String) (params : List Json)
  /-- The caller gives up. -/
  | fail (error : Error)

/-- What a piece of work is answered. -/
inductive Answer where
  | response (response : Response)
  | rows (outcome : Except Error (List Row))

/-- The answers to the work that was done, and the failure that stopped it, if one did. -/
structure Journal where
  answers : List Answer
  failure : Option Failure

namespace Answer

/-- The failure of a raw query. It keeps its text and state code, but not its class. -/
def queryFailure (error : Error) : Failure := ⟨.executionFailure, error.message, error.sqlstate?⟩

/-- The failure that an answer tells of. -/
def failure? : Answer → Option Failure
  | .response answered => answered.error
  | .rows (.ok _) => none
  | .rows (.error error) => some (queryFailure error)

/-- Goes on after an answer, unless it tells of a failure. -/
def thenDo {σ : Type} (answer : Answer) (rest : InSession σ Journal) : InSession σ Journal :=
  match answer.failure? with
  | some failure => pure ⟨[answer], some failure⟩
  | none => do
    let journal ← rest
    pure { journal with answers := answer :: journal.answers }

end Answer

namespace Connection

variable {σ : Type}

/-- Runs a chain under settings. -/
def runChain (connection : Connection σ) (settings : Settings) (chain : Chain) :
    InSession σ Response :=
  Runner.runChain ⟨connection.client, settings⟩ chain

/-- Sends a raw query, which leaves no event. -/
def query (connection : Connection σ) (sql : String) (params : List Json) :
    InSession σ (Except Error (List Row)) := do
  let session ← getThe (Session σ)
  let (outcome, client) := connection.client.answer ⟨none, sql, params⟩ session.client
  set { session with client }
  pure outcome

/-- Sends a command. -/
def send (connection : Connection σ) (command : Command) :
    InSession σ (Except DriverError Unit) := do
  let session ← getThe (Session σ)
  let (outcome, client) := connection.command command session.client
  set { session with client }
  pure outcome

/-- Does work in order up to the first failure. Giving up is not answered. -/
def perform (connection : Connection σ) : List Work → InSession σ Journal
  | [] => pure ⟨[], none⟩
  | .fail error :: _ => pure ⟨[], some (Failure.ofError error)⟩
  | .chain settings chain :: rest => do
    let response ← connection.runChain settings chain
    Answer.thenDo (.response response) (connection.perform rest)
  | .query sql params :: rest => do
    let outcome ← connection.query sql params
    Answer.thenDo (.rows outcome) (connection.perform rest)

/-- Does work in a transaction. A failed rollback is logged, and the failure of the work stays what
it was. -/
def transaction (connection : Connection σ) (body : InSession σ Journal) : InSession σ Journal := do
  match ← connection.send .begin with
  | .error cause => pure ⟨[], some (Failure.ofError (Error.ofDriver cause))⟩
  | .ok () =>
    let journal ← body
    match journal.failure with
    | none =>
      match ← connection.send .commit with
      | .ok () => pure journal
      | .error cause =>
        pure { journal with failure := some (Failure.ofError (Error.ofDriver cause)) }
    | some _ =>
      match ← connection.send .rollback with
      | .ok () => pure journal
      | .error cause =>
        logEvent (.rollbackFailed cause)
        pure journal

end Connection

end FluentSql
