import FluentSql.Json.Text

/-!
# SQL literals

The literal that stands for a value in a readable statement. Text is written between single quotes
with each quote inside doubled; arrays and objects are written as their JSON text with a cast.
-/

namespace FluentSql

/-- One character of a quoted literal. -/
def doubleQuote (c : Char) : List Char := if c = '\'' then ['\'', '\''] else [c]

/-- Text between single quotes. -/
def quotedLiteral (text : String) : String :=
  String.ofList ('\'' :: (text.toList.flatMap doubleQuote ++ ['\'']))

/-- The literal of a value. -/
def Json.literal : Json → String
  | .null => "NULL"
  | .bool value => if value then "true" else "false"
  | .number value => value.text
  | .string value => quotedLiteral value
  | .array items => quotedLiteral (Json.array items).text ++ "::jsonb"
  | .object fields => quotedLiteral (Json.object fields).text ++ "::jsonb"

end FluentSql
