import FluentSql.Json.Text
import FluentSql.Statement.SqlType

/-!
# Values at placeholders

The text that is sent for a value bound to a placeholder, which depends on the type that the server
has inferred for the placeholder: JSON text for the two JSON types, an array literal for arrays, and
otherwise the value's own text. The server reads the text as the type demands.
-/

namespace FluentSql

/-- One character of a quoted array element. -/
def escapeElement (c : Char) : List Char := if c = '"' ∨ c = '\\' then ['\\', c] else [c]

/-- An array element between double quotes. -/
def quotedElement (text : String) : String :=
  String.ofList ('"' :: (text.toList.flatMap escapeElement ++ ['"']))

namespace Json

mutual

/-- One element of an array literal. -/
def arrayElement : Json → String
  | .null => "NULL"
  | .bool value => if value then "true" else "false"
  | .number value => value.text
  | .string value => quotedElement value
  | .array items => "\x7b" ++ arrayElements items ++ "\x7d"
  | .object fields => quotedElement (Json.object fields).text

/-- The elements of an array literal, separated by commas. -/
def arrayElements : List Json → String
  | [] => ""
  | [item] => item.arrayElement
  | item :: rest => item.arrayElement ++ "," ++ arrayElements rest

end

/-- The text sent for a value at a placeholder of a type, or `none` for an SQL null. -/
def encode (type : SqlType) (value : Json) : Option String :=
  match value with
  | .null => none
  | value =>
    if type.isJson then some value.text
    else
      match value with
      | .string text => some text
      | .array items =>
        if type.isArray then some (Json.array items).arrayElement
        else some (Json.array items).text
      | value => some value.text

end Json

end FluentSql
