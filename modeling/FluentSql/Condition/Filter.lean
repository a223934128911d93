import FluentSql.Statement.Clause
import FluentSql.Condition.Parse

/-!
# Filters

The filters of a chain of calls. They hold together: the clause joins them by `AND`, in the order in
which they were given.
-/

namespace FluentSql

/-- A filter on the table of a chain. -/
inductive Filter where
  | compare (comparison : Comparison) (column : String) (value : Json)
  | is (column : String) (value : Json)
  /-- The column is one of the values; an empty list matches nothing. -/
  | among (column : String) (values : List Json)
  /-- A filter expression, whose terms are alternatives. -/
  | any (expression : String)
deriving Repr

/-- The truth that a value stands for: `null`, a boolean, or the word for one of them. -/
def Truth.ofJson (value : Json) : Except Error Truth :=
  match value with
  | .null => .ok .null
  | .bool true => .ok .yes
  | .bool false => .ok .no
  | .string word =>
    match Truth.ofText? word with
    | some truth => .ok truth
    | none => .error (.parse (.truthText word))
  | value => .error (.parse (.truthValue value))

namespace Filter

/-- The clause of a test on a column given by name. -/
def testClause (table column : String) (test : Test) : Clause :=
  Clause.qualified table column ++ Clause.ofFragment test.suffix

/-- The boolean expression of a filter. -/
def clause (table : String) : Filter → Clause
  | .compare comparison column value => testClause table column (.compare comparison value)
  | .is column value =>
    match Truth.ofJson value with
    | .ok truth => testClause table column (.is truth)
    | .error error => .fail error
  | .among column [] =>
    -- The table does not occur, so only the column is looked at.
    match Identifier.ofName column with
    | .ok _ => .text "false"
    | .error error => .fail error
  | .among column values => testClause table column (.among values)
  | .any expression => .ofExcept ((Condition.parse table expression).map Condition.fragment)

/-- The `WHERE` clause of a list of filters, or nothing when there are none. -/
def whereClause (table : String) (filters : List Filter) : Clause :=
  match filters with
  | [] => .empty
  | filters => .text " WHERE " ++ .separated " AND " (filters.map (clause table))

end Filter

end FluentSql
