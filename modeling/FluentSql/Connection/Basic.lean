import FluentSql.Run.Client
import FluentSql.Statement.SqlType
import FluentSql.Json.Parse

/-!
# Connections

A connection to a database server carries commands and statements out. A statement is wrapped so
that each of its rows comes back as one JSON object, which makes a connection a client whatever the
columns are.
-/

namespace FluentSql

/-- The commands that begin and end a transaction. -/
inductive Command where
  | begin
  | commit
  | rollback
deriving DecidableEq, Repr

/-- The text of a command. -/
def Command.sql : Command → String
  | .begin => "START TRANSACTION"
  | .commit => "COMMIT"
  | .rollback => "ROLLBACK"

/-- A value of a result as a server sends it: its type, and its text unless it is null. -/
structure Cell where
  type : SqlType
  text : Option String
deriving DecidableEq, Repr

/-- A connection with a state. The rows of a statement have one cell each. -/
structure Connection (σ : Type) where
  command : Command → σ → Except DriverError Unit × σ
  execute : String → List Json → σ → Except DriverError (List Cell) × σ

/-- The statement whose rows are the rows of a statement, each as a JSON object. -/
def jsonRowsSql (sql : String) : String :=
  "WITH q AS (" ++ sql ++ ") SELECT row_to_json(q) FROM q"

/-- The name of the column that holds the rows. -/
def rowColumn : String := "row_to_json"

/-- The JSON value in a cell. -/
def Cell.json? (cell : Cell) : Option Json :=
  if cell.type.isJson then cell.text.bind Json.parse? else none

/-- The row in a cell. -/
def Cell.row (cell : Cell) : Except Error Row :=
  match cell.json? with
  | some (.object row) => .ok row
  | some value => .error (.decode rowColumn (.notObject value))
  | none => .error (.decode rowColumn .unreadableCell)

namespace Connection

/-- The rows of an answer, or its error. -/
def rowsOf : Except DriverError (List Cell) → Except Error (List Row)
  | .ok cells => cells.mapM Cell.row
  | .error cause => .error (Error.ofDriver cause)

/-- The client that a connection makes. Tags do not reach the server. -/
def client {σ : Type} (connection : Connection σ) : Client σ :=
  ⟨fun request state =>
    let (outcome, state) := connection.execute (jsonRowsSql request.sql) request.params state
    (rowsOf outcome, state)⟩

end Connection

end FluentSql
