import FluentSql.Chain.Basic

/-!
# Plans

What a chain comes to: its statements, with every name looked at, and what is to become of the rows.
Without the select list of the caller a write returns all columns.
-/

namespace FluentSql

/-- A chain that has been turned into statements. -/
structure Plan where
  table : Identifier
  operation : Operation
  selection : Selection
  /-- There is none for a select without rows, and for an empty batch. -/
  statement : Option Fragment
  countStatement : Option Fragment
  demand : RowDemand
  /-- How the rows to insert were given. -/
  input : Option PayloadForm
  hasFilters : Bool

namespace Plan

/-- The text of the statement, or nothing. -/
def sql (plan : Plan) : String := (plan.statement.map Fragment.sql).getD ""

/-- The text of the statement with literals for its values, or nothing. -/
def inlineSql (plan : Plan) : String := (plan.statement.map Fragment.inlineSql).getD ""

end Plan

/-- One key of an `ORDER BY`. -/
def OrderKey.clause (table : Identifier) (key : OrderKey) : Clause :=
  Clause.qualified table.name key.column ++
    .text (if key.ascending then " ASC" else " DESC") ++
    (match key.nullsFirst with
      | some true => .text " NULLS FIRST"
      | some false => .text " NULLS LAST"
      | none => .empty)

/-- The `ORDER BY` of sort keys, the first key coming first. -/
def orderClause (table : Identifier) (keys : List OrderKey) : Clause :=
  match keys with
  | [] => .empty
  | keys => .text " ORDER BY " ++ .separated ", " (keys.map (OrderKey.clause table))

/-- The bounds of a page; a range goes before a limit. -/
def pageClause (range : Option (Nat × Nat)) (limit : Option Nat) : Clause :=
  match range, limit with
  | some (first, last), _ =>
    .text (" LIMIT " ++ natText (last - first + 1) ++ " OFFSET " ++ natText first)
  | none, some count => .text (" LIMIT " ++ natText count)
  | none, none => .empty

/-- The names of the columns that occur in rows, in the order in which they first occur. -/
def columnUnion (rows : List Row) : List String := (rows.flatMap Row.keys).eraseDups

/-- Names in a list, each an identifier. -/
def nameList (names : List String) : Clause := .separated ", " (names.map Clause.ident)

/-- The values of a row; a column that the row lacks is null. -/
def valuesTuple (columns : List String) (row : Row) : Clause :=
  .text "(" ++
    .ofFragment (Fragment.boundList (columns.map fun column => (row.get? column).getD .null)) ++
    .text ")"

/-- The columns and values of an insert. -/
def valuesClause (columns : List String) (rows : List Row) : Clause :=
  match columns with
  | [] =>
    if 1 < rows.length then .fail (.validation .severalEmptyRows) else .text " DEFAULT VALUES"
  | columns =>
    .text " (" ++ nameList columns ++ .text ") VALUES " ++
      .separated ", " (rows.map (valuesTuple columns))

/-- The columns of a conflict target, which are separated by commas. -/
def conflictTargets (text : String) : List String :=
  (((text.toList.splitOn ',').map trim).filter (!·.isEmpty)).map String.ofList

/-- One column that a conflicting row takes from the row that was to be inserted. -/
def excludedClause (column : String) : Clause :=
  Clause.ident column ++ .text " = EXCLUDED." ++ Clause.ident column

/-- What happens on a conflict: the columns that are no targets are set, if there are any. -/
def conflictClause (columns : List String) (target : String) : Clause :=
  match conflictTargets target with
  | [] => .fail (.validation .noConflictTarget)
  | targets =>
    .text " ON CONFLICT (" ++ nameList targets ++ .text ")" ++
      (match columns.filter (!targets.contains ·) with
        | [] => .text " DO NOTHING"
        | updates => .text " DO UPDATE SET " ++ .separated ", " (updates.map excludedClause))

/-- The columns that a write returns. -/
def returningClause (returning : String) : Clause := .text (" RETURNING " ++ returning)

/-- The statement that selects rows. -/
def selectClause (table : Identifier) (selection : Selection) (condition : Fragment)
    (order : List OrderKey) (range : Option (Nat × Nat)) (limit : Option Nat) : Clause :=
  .text ("SELECT " ++ selection.columnListSql table ++ " FROM " ++ table.sql) ++
    .ofFragment condition ++ orderClause table order ++ pageClause range limit

/-- The statement that counts rows. -/
def countFragment (table : Identifier) (condition : Fragment) : Fragment :=
  Fragment.text ("SELECT COUNT(*) AS \"count\" FROM " ++ table.sql) ++ condition

/-- The statement that inserts rows, and on a conflict with a target updates them. -/
def insertClause (table : Identifier) (rows : List Row) (target : Option String)
    (returning : String) : Clause :=
  let columns := columnUnion rows
  .text ("INSERT INTO " ++ table.sql) ++ valuesClause columns rows ++
    (match target with
      | some target => conflictClause columns target
      | none => .empty) ++
    returningClause returning

/-- One column to set. -/
def assignmentClause (assignment : String × Json) : Clause :=
  Clause.ident assignment.1 ++ .text " = " ++ .bound assignment.2

/-- The statement that sets columns of the rows that meet a condition. -/
def updateClause (table : Identifier) (row : Row) (condition : Fragment) (returning : String) :
    Clause :=
  match row with
  | [] => .fail (.validation .nothingToSet)
  | row =>
    .text ("UPDATE " ++ table.sql ++ " SET ") ++ .separated ", " (row.map assignmentClause) ++
      .ofFragment condition ++ returningClause returning

/-- The statement that deletes the rows that meet a condition. -/
def deleteClause (table : Identifier) (condition : Fragment) (returning : String) : Clause :=
  .text ("DELETE FROM " ++ table.sql) ++ .ofFragment condition ++ returningClause returning

namespace Draft

/-- The default conflict target. -/
def defaultTarget : String := "id"

/-- The statement that inserts a batch; an empty one needs none. -/
def insertStatement (table : Identifier) (payload : Payload) (target : Option String)
    (returning : String) : Except Error (Option Fragment) :=
  match payload.rows with
  | [] => .ok none
  | rows => (insertClause table rows target returning).result.map some

/-- The statement of a draft. -/
def statement (draft : Draft) (table : Identifier) (selection : Selection) (condition : Fragment) :
    Except Error (Option Fragment) :=
  let returning := if draft.columns.isSome then selection.columnListSql table else "*"
  let rows := (selectClause table selection condition draft.order draft.range draft.limit).result
  match draft.action with
  | .undecided => rows.map some
  | .select options => if options.headOnly then .ok none else rows.map some
  | .insert payload => insertStatement table payload none returning
  | .upsert payload =>
    insertStatement table payload (some (draft.conflictTarget.getD defaultTarget)) returning
  | .update row => (updateClause table row condition returning).result.map some
  | .delete => (deleteClause table condition returning).result.map some

/-- The statement that counts, if an exact count was asked for. -/
def countStatement (draft : Draft) (table : Identifier) (condition : Fragment) : Option Fragment :=
  match draft.action with
  | .select options => if options.exactCount then some (countFragment table condition) else none
  | _ => none

/-- How the rows to insert were given. -/
def payloadForm : Action → Option PayloadForm
  | .insert payload | .upsert payload => some payload.shape
  | _ => none

/-- The plan of a draft. -/
def plan (draft : Draft) : Except Error Plan := do
  let table ← Identifier.ofName draft.table
  let selection ← Selection.parse (draft.columns.getD "*")
  let condition ← (Filter.whereClause table.name draft.filters).result
  let statement ← draft.statement table selection condition
  .ok
    { table
      operation := draft.action.operation
      selection
      statement
      countStatement := draft.countStatement table condition
      demand := draft.demand
      input := payloadForm draft.action
      hasFilters := !draft.filters.isEmpty }

end Draft

/-- The plan of a chain. -/
def Chain.plan (chain : Chain) : Except Error Plan := do
  let draft ← Draft.ofChain chain
  draft.plan

end FluentSql
