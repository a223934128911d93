import FluentSql.Error

/-!
# Identifiers

Names of tables and columns. A name is simple when it is made of ASCII letters, digits and
underscores and does not begin with a digit; only simple names are identifiers, so a quoted
identifier needs no escapes.
-/

namespace FluentSql

/-- A character that may begin a simple name. -/
def isNameStart (c : Char) : Bool := c == '_' || c.isAlpha

/-- A character that may follow in a simple name. -/
def isNameChar (c : Char) : Bool := c == '_' || c.isAlphanum

/-- Whether text is a simple name. -/
def isSimpleName : List Char → Bool
  | [] => false
  | c :: rest => isNameStart c && rest.all isNameChar

/-- A simple name of a table or a column. -/
structure Identifier where
  name : String
  simple : isSimpleName name.toList = true
deriving DecidableEq

namespace Identifier

/-- The identifier of a simple name. -/
def ofName? (name : String) : Option Identifier :=
  if h : isSimpleName name.toList = true then some ⟨name, h⟩ else none

/-- The identifier of a name, or the error that it is not simple. -/
def ofName (name : String) : Except Error Identifier :=
  match ofName? name with
  | some ident => .ok ident
  | none => .error (.invalidIdentifier name)

/-- The identifier in double quotes. -/
def sql (ident : Identifier) : String := "\"" ++ ident.name ++ "\""

theorem ofName?_eq_some_iff {name : String} {ident : Identifier} :
    ofName? name = some ident ↔ ident.name = name := by
  rcases ident with ⟨own, simple⟩
  simp only [ofName?]
  split
  · rename_i h
    simp only [Option.some.injEq, mk.injEq]
    exact eq_comm
  · rename_i h
    simp only [reduceCtorEq, false_iff]
    rintro rfl
    exact h simple

end Identifier

/-- A column of a table. -/
structure ColumnRef where
  table : Identifier
  column : Identifier
deriving DecidableEq

namespace ColumnRef

/-- The column that two names stand for; the table's name is looked at first. -/
def ofNames (table column : String) : Except Error ColumnRef := do
  let table ← Identifier.ofName table
  let column ← Identifier.ofName column
  .ok ⟨table, column⟩

/-- The qualified name of the column. -/
def sql (ref : ColumnRef) : String := ref.table.sql ++ "." ++ ref.column.sql

end ColumnRef

end FluentSql
