import FluentSql.Json.Basic
import FluentSql.Number.Layout

/-!
# JSON text

The compact text of a JSON value: no spaces, fields in their order, and in strings only the quote,
the backslash and the characters below U+0020 escaped.
-/

namespace FluentSql

/-- The digit of a value below sixteen, in lower case. -/
def hexDigit (n : Nat) : Char := Nat.digitChar n

/-- One character of a JSON string. -/
def escapeChar (c : Char) : List Char :=
  if c = '"' then ['\\', '"']
  else if c = '\\' then ['\\', '\\']
  else if c = '\x08' then ['\\', 'b']
  else if c = '\x0c' then ['\\', 'f']
  else if c = '\n' then ['\\', 'n']
  else if c = '\r' then ['\\', 'r']
  else if c = '\t' then ['\\', 't']
  else if c.toNat < 0x20 then
    ['\\', 'u', '0', '0', hexDigit (c.toNat / 16), hexDigit (c.toNat % 16)]
  else [c]

/-- A JSON string literal. -/
def jsonString (value : String) : String :=
  String.ofList ('"' :: (value.toList.flatMap escapeChar ++ ['"']))

/-- The text of a number: an integer in decimal, a binary number with its shortest digits. -/
def Number.text : Number → String
  | .int value => intText value
  | .float value => value.text

namespace Json

mutual

/-- The compact text of a JSON value. -/
def text : Json → String
  | .null => "null"
  | .bool value => if value then "true" else "false"
  | .number value => value.text
  | .string value => jsonString value
  | .array items => "[" ++ itemsText items ++ "]"
  | .object fields => "\x7b" ++ fieldsText fields ++ "\x7d"

/-- The items of an array, separated by commas. -/
def itemsText : List Json → String
  | [] => ""
  | [item] => item.text
  | item :: rest => item.text ++ "," ++ itemsText rest

/-- The fields of an object, separated by commas. -/
def fieldsText : List (String × Json) → String
  | [] => ""
  | [(key, value)] => jsonString key ++ ":" ++ value.text
  | (key, value) :: rest => jsonString key ++ ":" ++ value.text ++ "," ++ fieldsText rest

end

end Json

end FluentSql
