import FluentSql.Run.Client
import FluentSql.Embedding.Guess
import FluentSql.Run.Event
import FluentSql.Statement.Fragment

/-!
# Sessions

Sending statements through a client under given settings. A session keeps the client's state and the
events so far; every statement that is sent leaves one event, in which its text may be cut short.
-/

namespace FluentSql

/-- How chains are run. -/
structure Settings where
  convention : NamingConvention
  warnUnscopedWrites : Bool
  tag : Option String
  /-- The number of bytes after which a logged statement is cut, if it is cut. -/
  maxLogged : Option Nat
deriving DecidableEq, Repr

/-- Warnings, no tag, and 200 bytes of each statement. -/
def Settings.default : Settings :=
  { convention := .default, warnUnscopedWrites := true, tag := none, maxLogged := some 200 }

/-- The longest beginning of a text that has at most so many bytes. -/
def takeBytes : Nat → List Char → List Char
  | _, [] => []
  | limit, c :: rest => if c.utf8Size ≤ limit then c :: takeBytes (limit - c.utf8Size) rest else []

/-- The text of a statement as it is logged: all of it where it fits, else its beginning and three
dots. -/
def loggedText (maxLogged : Option Nat) (sql : String) : String :=
  match maxLogged with
  | some limit =>
    if limit < sql.utf8ByteSize then String.ofList (takeBytes limit sql.toList) ++ "..." else sql
  | none => sql

/-- The state of a client and what has been logged. -/
structure Session (σ : Type) where
  client : σ
  events : List Event

/-- Computations in a session. -/
abbrev InSession (σ : Type) := StateM (Session σ)

/-- Computations in a session that may fail; what was logged and sent before the failure stays. -/
abbrev Run (σ : Type) := ExceptT Error (InSession σ)

/-- Logs an event. -/
def logEvent {σ : Type} (event : Event) : InSession σ Unit :=
  modify fun session => { session with events := session.events ++ [event] }

/-- A client with the settings under which it is used. -/
structure Runner (σ : Type) where
  client : Client σ
  settings : Settings

namespace Runner

variable {σ : Type}

/-- The request for a fragment. -/
def request (runner : Runner σ) (fragment : Fragment) : Request :=
  ⟨runner.settings.tag, fragment.sql, fragment.params⟩

/-- The event that a statement leaves. -/
def statementEvent (runner : Runner σ) (fragment : Fragment)
    (outcome : Except Error (List Row)) : Event :=
  .statement runner.settings.tag fragment.params.length (outcome.map List.length)
    (loggedText runner.settings.maxLogged fragment.sql)

/-- Sends a statement. -/
def fetch (runner : Runner σ) (fragment : Fragment) : Run σ (List Row) := do
  let session ← getThe (Session σ)
  let (outcome, client) := runner.client.answer (runner.request fragment) session.client
  set { session with client }
  (logEvent (runner.statementEvent fragment outcome) : InSession σ Unit)
  ExceptT.mk (pure outcome)

end Runner

end FluentSql
