/-!
# SQL types

The types of a server that placeholders and columns have: scalar types, and arrays of them.
-/

namespace FluentSql

/-- The scalar types of a server. -/
inductive ScalarType where
  | bool
  | int2
  | int4
  | int8
  | float8
  | numeric
  | text
  | varchar
  | uuid
  | timestamptz
  | bytea
  | json
  | jsonb
  | int4range
  /-- Any other type, by its name. -/
  | other (name : String)
deriving DecidableEq, Repr

/-- The type of a placeholder or of a column. -/
inductive SqlType where
  | scalar (type : ScalarType)
  | array (element : ScalarType)
deriving DecidableEq, Repr

namespace SqlType

/-- The scalar types by name. -/
def scalarNames : List (String × ScalarType) :=
  [("bool", .bool), ("int2", .int2), ("int4", .int4), ("int8", .int8), ("float8", .float8),
   ("numeric", .numeric), ("text", .text), ("varchar", .varchar), ("uuid", .uuid),
   ("timestamptz", .timestamptz), ("bytea", .bytea), ("json", .json), ("jsonb", .jsonb),
   ("int4range", .int4range)]

/-- The types by name; the name of an array type ends in brackets. -/
def names : List (String × SqlType) :=
  scalarNames.flatMap fun (name, type) => [(name, .scalar type), (name ++ "[]", .array type)]

/-- The type of a name. -/
def ofName? (name : String) : Option SqlType := names.lookup name

/-- The type takes JSON text; an array of JSON values does not. -/
def isJson : SqlType → Bool
  | .scalar .json | .scalar .jsonb => true
  | _ => false

/-- The type is an array type. -/
def isArray : SqlType → Bool
  | .array _ => true
  | .scalar _ => false

end SqlType

end FluentSql
