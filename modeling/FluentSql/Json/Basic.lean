import FluentSql.Number.Numeral

/-!
# JSON values

JSON values with exact integers kept apart from binary numbers, and objects as rows: lists of fields
in the order in which they were first named. Setting a field that a row has keeps its place.
-/

namespace FluentSql

/-- A JSON number. `1` and `1.0` are different numbers. -/
inductive Number where
  | int (value : Int)
  | float (value : Binary64)
deriving DecidableEq, Repr

/-- A JSON value. -/
inductive Json where
  | null
  | bool (value : Bool)
  | number (value : Number)
  | string (value : String)
  | array (items : List Json)
  | object (fields : List (String × Json))
deriving Repr, Inhabited

/-- The fields of an object, in order; a row of a result. -/
abbrev Row := List (String × Json)

namespace Row

/-- The value of a field. -/
def get? (row : Row) (key : String) : Option Json := row.lookup key

/-- Sets a field: in its place if the row has it, else at the end. -/
def insert (row : Row) (key : String) (value : Json) : Row :=
  match row with
  | [] => [(key, value)]
  | (k, v) :: rest => if k = key then (k, value) :: rest else (k, v) :: Row.insert rest key value

/-- The names of the fields, in order. -/
def keys (row : Row) : List String := row.map Prod.fst

end Row

namespace Json

/-- The JSON number of an integer. -/
def int (value : Int) : Json := .number (.int value)

/-- The value is `null`. -/
def isNull : Json → Bool
  | .null => true
  | _ => false

/-- The text of a string. -/
def string? : Json → Option String
  | .string value => some value
  | _ => none

/-- The fields of an object. -/
def row? : Json → Option Row
  | .object fields => some fields
  | _ => none

/-- An integer in the signed 64-bit range. -/
def int64? : Json → Option Int
  | .number (.int value) => if isInt64 value then some value else none
  | _ => none

/-- The field of an object. -/
def field? (json : Json) (key : String) : Option Json := json.row?.bind (Row.get? · key)

end Json

end FluentSql
