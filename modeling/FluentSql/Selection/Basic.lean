import FluentSql.Statement.Fragment

/-!
# Selections

What a statement returns: plain columns, and rows of related tables that are embedded in each row.
An embed selects from its own table, and its selection may hold embeds again.
-/

namespace FluentSql

/-- Rows of a related table to embed in each row. -/
structure Embed where
  table : String
  /-- The column of the embedding row that refers to the related table, where the request names one.
  -/
  foreignKey : Option String
  columns : List String
  embeds : List Embed
deriving Repr

/-- The columns of a table, in the order given, and the embeds, in theirs. -/
structure Selection where
  columns : List String
  embeds : List Embed
deriving Repr

/-- What an embed selects from its table. -/
def Embed.selection (embed : Embed) : Selection := ⟨embed.columns, embed.embeds⟩

namespace Selection

/-- One column: `*` and simple names are qualified with the table, all else is written as it stands.
-/
def columnSql (table : Identifier) (column : String) : String :=
  if column = "*" then table.sql ++ ".*"
  else match Identifier.ofName? column with
    | some name => ColumnRef.sql ⟨table, name⟩
    | none => column

/-- The column list. Without plain columns all columns are selected. -/
def columnListSql (table : Identifier) (selection : Selection) : String :=
  match selection.columns with
  | [] => columnSql table "*"
  | columns => ", ".intercalate (columns.map (columnSql table))

/-- The column list of the table with a name, if that is an identifier. -/
def columnList (table : String) (selection : Selection) : Except Error String :=
  (Identifier.ofName table).map (columnListSql · selection)

end Selection

end FluentSql
