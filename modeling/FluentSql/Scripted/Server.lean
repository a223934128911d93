import FluentSql.Connection.Basic
import FluentSql.Scripted.Rule
import FluentSql.Statement.Binding

/-!
# Scripted servers

A database server that replies from a script, and the connection to it. A statement takes its rule
when it is prepared, and is received when its values are bound. When the server hangs up, nothing
gets through any more.
-/

namespace FluentSql

/-- What a server does with a statement. -/
inductive ServerAction where
  | rows (cells : List Cell)
  | report (report : ServerReport)
  | hangUp
deriving Repr

/-- A reply of a server: the types of the placeholders, as far as they are not text, and what it
does. -/
structure ServerReply where
  types : List SqlType
  action : ServerAction
deriving Repr

/-- What a server has received. -/
inductive Received where
  | command (command : Command)
  | statement (sql : String) (params : List (Option String))
deriving Repr

/-- A server and the connection to it. -/
structure Server where
  script : Script ServerReply
  received : List Received
  hungUp : Bool
  /-- A rollback is due before anything else is sent. -/
  rollbackDue : Bool

/-- The greatest number of a placeholder in a text. -/
def placeholderCount : List Char → Nat
  | [] => 0
  | c :: rest =>
    let number := if c = '$' then (natural? (rest.takeWhile Char.isDigit)).getD 0 else 0
    max number (placeholderCount rest)

namespace Server

/-- What a server replies to a statement that no rule matches. -/
def noRule : ServerReply := ⟨[], .report ⟨"42601", "syntax error", none⟩⟩

/-- Takes the reply to a text. The values are not known yet when that happens. -/
def take (server : Server) (sql : String) : Option ServerReply × Server :=
  let (reply, script) := server.script.take (·.matchesText sql)
  (reply, { server with script })

/-- The server receives something. -/
def receive (server : Server) (message : Received) : Server :=
  { server with received := server.received ++ [message] }

/-- The server receives a command. It can only fail by a report. -/
def runCommand (server : Server) (command : Command) : Except DriverError Unit × Server :=
  let (reply, server) := (server.receive (.command command)).take command.sql
  match reply with
  | some ⟨_, .report report⟩ => (.error (.server report), server)
  | _ => (.ok (), server)

/-- Sends the rollback that is due. -/
def settle (server : Server) : Server :=
  if server.rollbackDue then (runCommand { server with rollbackDue := false } .rollback).2
  else server

/-- Sends a command. A transaction that does not begin leaves a rollback due. -/
def command (command : Command) (server : Server) : Except DriverError Unit × Server :=
  if server.hungUp then (.error .closed, server)
  else
    match server.settle.runCommand command with
    | (.error cause, server) => (.error cause, { server with rollbackDue := command == .begin })
    | (.ok (), server) => (.ok (), server)

/-- The texts of values at placeholders whose types are given as far as they are not text. -/
def encodeParams : List SqlType → List Json → List (Option String)
  | _, [] => []
  | [], value :: rest => value.encode (.scalar .text) :: encodeParams [] rest
  | type :: types, value :: rest => value.encode type :: encodeParams types rest

/-- Texts end at a zero character on the wire, so that none with one inside can be sent. -/
def isSendable (sql : String) : Bool := !sql.toList.contains '\x00'

/-- Sends a statement. -/
def execute (sql : String) (params : List Json) (server : Server) :
    Except DriverError (List Cell) × Server :=
  if !isSendable sql then (.error .unsendable, server)
  else if server.hungUp then (.error .closed, server)
  else
    let (reply, server) := server.settle.take sql
    let ⟨types, action⟩ := reply.getD noRule
    let count := placeholderCount sql.toList
    if params.length ≠ count then (.error (.parameterCount count params.length), server)
    else
      let server := server.receive (.statement sql (encodeParams types params))
      match action with
      | .rows cells => (.ok cells, server)
      | .report report => (.error (.server report), server)
      | .hangUp => (.error .closed, { server with hungUp := true })

/-- The connection to a scripted server. -/
def connection : Connection Server := ⟨command, execute⟩

end Server

end FluentSql
