import FluentSql.Error

/-!
# Events

What is logged while chains are run: every statement with its outcome, the steps by which embeds are
resolved, and what deserves a warning.
-/

namespace FluentSql

/-- How much an event matters. -/
inductive Level where
  | debug
  | warn
deriving DecidableEq, Repr

/-- What an event is about. -/
inductive Topic where
  | statement
  | execution
  | embedding
deriving DecidableEq, Repr

/-- An event. -/
inductive Event where
  /-- A statement was sent; it returned so many rows, or failed. -/
  | statement (tag : Option String) (paramCount : Nat) (outcome : Except Error Nat) (sql : String)
  | chainFailed (table : String) (operation : Operation) (error : Error)
  /-- A write is about to be sent that no filter restricts. -/
  | unscopedWrite (table : String) (operation : Operation)
  /-- The foreign key that an embed names is missing from the row, or null. -/
  | keyMissing (relation key : String)
  | probeFailed (relation column : String) (error : Error)
  /-- An embed was found by a probe that was not the first. -/
  | lateProbe (relation base column : String) (probes : Nat)
  | rollbackFailed (error : DriverError)

namespace Event

/-- How much the event matters. -/
def level : Event → Level
  | .statement .. | .chainFailed .. | .keyMissing .. | .probeFailed .. => .debug
  | .unscopedWrite .. | .lateProbe .. | .rollbackFailed .. => .warn

/-- What the event is about. -/
def topic : Event → Topic
  | .statement .. => .statement
  | .chainFailed .. | .unscopedWrite .. | .rollbackFailed .. => .execution
  | .keyMissing .. | .probeFailed .. | .lateProbe .. => .embedding

/-- What is written for a statement without a tag. -/
def noTag : String := "-"

/-- The sentence that goes with the event; statements speak for themselves. -/
def message? : Event → Option String
  | .statement .. => none
  | .chainFailed .. => some "chain failed"
  | .unscopedWrite _ operation =>
    some (operation.name.map Char.toUpper ++ " without filters affects every row")
  | .keyMissing .. => some "alias column missing or null, falling back to guesses"
  | .probeFailed .. => some "reverse probe failed"
  | .lateProbe .. => some "relation resolved after failed reverse probes"
  | .rollbackFailed _ => some "transaction rollback failed"

/-- The data of the event. -/
def data : Event → Row
  | .statement tag paramCount outcome sql =>
    [("tag", .string (tag.getD noTag)), ("param_count", .int paramCount), ("sql", .string sql),
     match outcome with
      | .ok rows => ("rows", .int rows)
      | .error error => ("error", .string error.message)]
  | .chainFailed table operation error =>
    [("table", .string table), ("operation", .string operation.name),
     ("error", .string error.message)]
  | .unscopedWrite table operation =>
    [("table", .string table), ("operation", .string operation.name)]
  | .keyMissing relation key => [("relation", .string relation), ("alias", .string key)]
  | .probeFailed relation column error =>
    [("relation", .string relation), ("column", .string column), ("error", .string error.message)]
  | .lateProbe relation base column probes =>
    [("relation", .string relation), ("base", .string base), ("column", .string column),
     ("probes", .int probes)]
  | .rollbackFailed error => [("error", .string error.message)]

/-- The data of the event with its message. -/
def fields (event : Event) : Row :=
  event.data ++ (event.message?.map fun message => ("message", .string message)).toList

end Event

end FluentSql
