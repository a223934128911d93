import FluentSql.Chain.Plan
import FluentSql.Embedding.Resolve
import FluentSql.Response.Basic

/-!
# Running plans

The statements of a plan are sent in order: the main statement, then whatever its embeds need, then
the count. Every failure ends up in the response.
-/

namespace FluentSql

/-- The rows that a caller who expects at most one sees; a caller who expects exactly one sees a
failure instead of none. -/
def RowDemand.take (demand : RowDemand) (rows : List Row) : Except Error (List Row) :=
  match demand, rows with
  | .many, rows => .ok rows
  | .one, [] => .error (.notFound "Expected 1 row, got 0")
  | .one, rows | .atMostOne, rows => .ok (rows.take 1)

namespace Plan

/-- The caller sees one row by itself: one was expected, or one object was written. -/
def showsOneRow (plan : Plan) : Bool :=
  plan.demand != .many || plan.input == some .object

/-- Rows as the data of a response. -/
def rowData (plan : Plan) (rows : List Row) : Option Json :=
  if plan.showsOneRow then rows.head?.map .object else some (.array (rows.map .object))

end Plan

/-- The name of the column that holds a count. -/
def countColumn : String := "count"

/-- A count: an integer, or text that reads as one. -/
def countOf (value : Json) : Option Int :=
  match value with
  | .string text => int64? text.toList
  | value => value.int64?

/-- The count in the rows of a counting statement. -/
def readCount (rows : List Row) : Except Error Int :=
  match rows.head?.bind (Row.get? · countColumn) with
  | none => .error (.decode countColumn .noCount)
  | some value =>
    match countOf value with
    | some count => .ok count
    | none => .error (.decode countColumn (.countNotInteger value))

namespace Runner

variable {σ : Type}

/-- Turns the rows of the main statement into data. -/
def shape (runner : Runner σ) (plan : Plan) (rows : List Row) : Run σ (Option Json) := do
  let rows ← ExceptT.mk (pure (plan.demand.take rows))
  let rows ← ExceptT.mk do
    let progress ← runner.resolveRows plan.selection.embeds plan.table.name rows
    pure progress.result
  pure (plan.rowData rows)

/-- Sends a counting statement. -/
def fetchCount (runner : Runner σ) (fragment : Fragment) : Run σ Int := do
  let rows ← runner.fetch fragment
  ExceptT.mk (pure (readCount rows))

/-- Runs a plan that selects. -/
def runSelect (runner : Runner σ) (plan : Plan) : Run σ Response := do
  let data ← match plan.statement with
    | some fragment =>
      let rows ← runner.fetch fragment
      runner.shape plan rows
    | none => pure none
  let count ← match plan.countStatement with
    | some fragment => some <$> runner.fetchCount fragment
    | none => pure none
  pure (.ok data count)

/-- The write touches every row, and this is to be warned of. -/
def warns (runner : Runner σ) (plan : Plan) : Bool :=
  (plan.operation == .update || plan.operation == .delete) && !plan.hasFilters &&
    runner.settings.warnUnscopedWrites

/-- Runs a plan that writes. An empty batch sends nothing and writes no rows. -/
def runWrite (runner : Runner σ) (plan : Plan) : Run σ Response := do
  if runner.warns plan then
    (logEvent (.unscopedWrite plan.table.name plan.operation) : InSession σ Unit)
  let rows ← match plan.statement with
    | some fragment => runner.fetch fragment
    | none => pure []
  let data ← runner.shape plan rows
  pure (.ok data none)

/-- Runs a plan; a failure is logged. -/
def run (runner : Runner σ) (plan : Plan) : InSession σ Response := do
  let outcome ← (if plan.operation.isWrite then runner.runWrite plan else runner.runSelect plan).run
  match outcome with
  | .ok response => pure response
  | .error error =>
    logEvent (.chainFailed plan.table.name plan.operation error)
    pure (.fail error)

/-- Runs a chain. One that has no plan fails without a trace. -/
def runChain (runner : Runner σ) (chain : Chain) : InSession σ Response :=
  match chain.plan with
  | .ok plan => runner.run plan
  | .error error => pure (.fail error)

end Runner

end FluentSql
