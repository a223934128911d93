import FluentSql.Statement.Fragment

/-!
# Conditions

Conditions on the columns of a table: tests of one column, and groups of conditions joined by `AND`
or `OR`. In a group every test and every group stands in parentheses of its own.
-/

namespace FluentSql

/-- The comparisons of a column with a value. -/
inductive Comparison where
  | eq
  | neq
  | gt
  | gte
  | lt
  | lte
  | like
  | ilike
deriving DecidableEq, Repr

/-- The operator of a comparison. -/
def Comparison.sql : Comparison → String
  | .eq => "="
  | .neq => "!="
  | .gt => ">"
  | .gte => ">="
  | .lt => "<"
  | .lte => "<="
  | .like => "LIKE"
  | .ilike => "ILIKE"

/-- What a column can be tested to be. -/
inductive Truth where
  | null
  | yes
  | no
deriving DecidableEq, Repr

/-- The test that follows a column. -/
def Truth.sql : Truth → String
  | .null => " IS NULL"
  | .yes => " IS TRUE"
  | .no => " IS FALSE"

/-- The word for a truth. -/
def Truth.ofText? (text : String) : Option Truth :=
  [("null", Truth.null), ("true", .yes), ("false", .no)].lookup text

/-- A test of one column. -/
inductive Test where
  | compare (comparison : Comparison) (value : Json)
  | is (truth : Truth)
  /-- The column is one of the values; of no values it is none. -/
  | among (values : List Json)
deriving Repr

namespace Test

/-- What follows the column. -/
def suffix : Test → Fragment
  | .compare comparison value =>
    Fragment.text (" " ++ comparison.sql ++ " ") ++ Fragment.bound value
  | .is truth => Fragment.text truth.sql
  | .among values => Fragment.text " IN (" ++ Fragment.boundList values ++ Fragment.text ")"

/-- The test of a column as a boolean expression. -/
def fragment (column : ColumnRef) : Test → Fragment
  | .among [] => Fragment.text "false"
  | test => Fragment.column column ++ test.suffix

end Test

/-- How the conditions of a group are joined. -/
inductive Joiner where
  | and
  | or
deriving DecidableEq, Repr

/-- The text between two conditions of a group. -/
def Joiner.sql : Joiner → String
  | .and => " AND "
  | .or => " OR "

/-- A condition. -/
inductive Condition where
  | test (column : ColumnRef) (test : Test)
  | group (joiner : Joiner) (terms : List Condition)

namespace Condition

/-- A fragment in parentheses. -/
def parenthesised (fragment : Fragment) : Fragment :=
  Fragment.text "(" ++ fragment ++ Fragment.text ")"

mutual

/-- A condition as a boolean expression in parentheses. -/
def fragment : Condition → Fragment
  | .test column tested => parenthesised (tested.fragment column)
  | .group joiner terms => parenthesised (Fragment.separated joiner.sql (termFragments terms))

/-- The terms of a group. -/
def termFragments : List Condition → List Fragment
  | [] => []
  | term :: rest => term.fragment :: termFragments rest

end

end Condition

end FluentSql
