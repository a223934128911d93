import FluentSql.Statement.Identifier
import FluentSql.Statement.Literal

/-!
# SQL fragments

A piece of a statement with its bound values. Placeholders are numbered only when a fragment is
written, so fragments can be put together in any order.
-/

namespace FluentSql

/-- A piece of a statement: text, or a placeholder with the value bound to it. -/
inductive Piece where
  | text (sql : String)
  | bound (value : Json)
deriving Repr

/-- The pieces of a statement, in order. -/
abbrev Fragment := List Piece

namespace Piece

/-- The value bound to a placeholder. -/
def value? : Piece → Option Json
  | .text _ => none
  | .bound value => some value

/-- The piece with its value written as a literal. -/
def inlineText : Piece → String
  | .text sql => sql
  | .bound value => value.literal

end Piece

namespace Fragment

/-- The placeholder with a number. -/
def placeholder (number : Nat) : String := "$" ++ natText number

/-- The text of a fragment after `count` placeholders that stand before it. -/
def sqlFrom (count : Nat) : Fragment → String
  | [] => ""
  | .text sql :: rest => sql ++ sqlFrom count rest
  | .bound _ :: rest => placeholder (count + 1) ++ sqlFrom (count + 1) rest

/-- The text of a fragment, its placeholders numbered from one. -/
def sql (fragment : Fragment) : String := sqlFrom 0 fragment

/-- The text of a fragment with literals in place of placeholders. -/
def inlineSql (fragment : Fragment) : String :=
  fragment.foldr (fun piece rest => piece.inlineText ++ rest) ""

/-- The bound values, in the order of their placeholders. -/
def params (fragment : Fragment) : List Json := fragment.filterMap Piece.value?

/-- Nothing has been written. -/
def isBlank (fragment : Fragment) : Bool :=
  fragment.all fun
    | .text sql => sql.isEmpty
    | .bound _ => false

/-- A fragment of text alone. -/
def text (sql : String) : Fragment := [.text sql]

/-- A fragment of one placeholder. -/
def bound (value : Json) : Fragment := [.bound value]

/-- Fragments with a separator between them. -/
def separated (separator : String) (fragments : List Fragment) : Fragment :=
  (text separator).intercalate fragments

/-- Placeholders for a list of values. -/
def boundList (values : List Json) : Fragment := separated ", " (values.map bound)

/-- An identifier. -/
def ident (name : Identifier) : Fragment := text name.sql

/-- A qualified column. -/
def column (ref : ColumnRef) : Fragment := text ref.sql

end Fragment

end FluentSql
