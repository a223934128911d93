/-!
# Operations

The kinds of statements that a chain of calls can ask for.
-/

namespace FluentSql

/-- What a statement does to its table. -/
inductive Operation where
  | select
  | insert
  | update
  | delete
  | upsert
deriving DecidableEq, Repr

namespace Operation

/-- The name of an operation, which is also the name of the call that asks for it. -/
def name : Operation → String
  | .select => "select"
  | .insert => "insert"
  | .update => "update"
  | .delete => "delete"
  | .upsert => "upsert"

/-- Every operation but a select writes. -/
def isWrite (operation : Operation) : Bool := operation != .select

end Operation

end FluentSql
