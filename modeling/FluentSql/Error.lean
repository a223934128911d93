import FluentSql.Json.Decode
import FluentSql.Operation

/-!
# Errors

Every failure of the library, one constructor per cause, with its text, the state code it carries
and the class it belongs to. A client may also report a failure of any kind in its own words.
-/

namespace FluentSql

/-- An error that the database server sends. -/
structure ServerReport where
  sqlstate : String
  message : String
  constraint : Option String
deriving DecidableEq, Repr

/-- Why a statement could not be carried out on a connection. -/
inductive DriverError where
  | server (report : ServerReport)
  | closed
  | parameterCount (expected bound : Nat)
  /-- The text of the statement cannot be sent. -/
  | unsendable
deriving DecidableEq, Repr

/-- The constraints whose violation a server reports with a state code of its own. -/
inductive Violation where
  | unique
  | foreignKey
  | check
deriving DecidableEq, Repr

/-- What is wrong with a select list or a filter expression. -/
inductive ParseFault where
  | unbalancedClose (text : String)
  | unclosedParenthesis (text : String)
  | unclosedQuote (text : String)
  | emptyGroup (text : String)
  | malformedTerm (term : String)
  /-- The operand of `is` in an expression, or one given as text. -/
  | truthText (operand : String)
  /-- The operand of a filter `is` that is not text. -/
  | truthValue (operand : Json)
  | listOperand (operand : String)
  | unknownOperator (operator term : String)
  | reported (message : String)
deriving Repr

/-- What is wrong with a result. -/
inductive DecodeFault where
  | noCount
  | countNotInteger (found : Json)
  | notObject (found : Json)
  | unreadableCell
  | mismatch (fault : Mismatch)
  | reported (message : String)
deriving Repr

/-- What is wrong with a request. -/
inductive RequestFault where
  | payloadRow (found : Json)
  | payload (found : Json)
  | updateOfSeveral
  | limitTooLarge (limit : Nat)
  | rangeReversed (first last : Nat)
  | rangeTooLarge (first last : Nat)
  | nothingToSet
  | severalEmptyRows
  | noConflictTarget
  | reported (message : String)
deriving Repr

/-- Calls that do not go together. -/
inductive Misuse where
  | optionsOnWrite
  | writeAfterSelect (operation : Operation)
  | secondWrite (operation existing : Operation)
  | reported (message : String)
deriving DecidableEq, Repr

/-- A failure. -/
inductive Error where
  | connection (message : String)
  | query (cause : DriverError)
  | notFound (message : String)
  | violation (kind : Violation) (message : String)
  | invalidIdentifier (name : String)
  | parse (fault : ParseFault)
  | decode (column : String) (fault : DecodeFault)
  | validation (fault : RequestFault)
  | serialization (message : String)
  | misuse (fault : Misuse)
  | pool (message : String)
  | other (message : String)
deriving Repr

/-- The greatest row count or offset that a server accepts. -/
def maxRowBound : Nat := Nat.pow 2 63 - 1

/-- The text of a driver error; a server's own message is not part of it. -/
def DriverError.message : DriverError → String
  | .server _ => "db error"
  | .closed => "connection closed"
  | .parameterCount expected bound =>
    "expected " ++ natText expected ++ " parameters but got " ++ natText bound
  | .unsendable => "error encoding message to server"

/-- The words that introduce a violation. -/
def Violation.title : Violation → String
  | .unique => "Unique constraint violation"
  | .foreignKey => "Foreign key violation"
  | .check => "Check constraint violation"

/-- The state code of a violation. -/
def Violation.sqlstate : Violation → String
  | .unique => "23505"
  | .foreignKey => "23503"
  | .check => "23514"

/-- The text of a parse fault. -/
def ParseFault.message : ParseFault → String
  | .unbalancedClose text => "unbalanced ')' in " ++ quoted text
  | .unclosedParenthesis text => "unclosed '(' in " ++ quoted text
  | .unclosedQuote text => "unclosed '\"' in " ++ quoted text
  | .emptyGroup text => "empty filter group " ++ quoted text
  | .malformedTerm term => "filter term " ++ quoted term ++ " is not column.operator.value"
  | .truthText operand => ticked "is" ++ " expects null, true or false, got " ++ quoted operand
  | .truthValue operand => ticked "is" ++ " expects null, true or false, got " ++ operand.text
  | .listOperand operand => ticked "in" ++ " expects (a,b,...), got " ++ quoted operand
  | .unknownOperator operator term =>
    "unsupported operator " ++ quoted operator ++ " in filter term " ++ quoted term
  | .reported message => message

/-- The text of a decode fault. -/
def DecodeFault.message : DecodeFault → String
  | .noCount => "count query returned no rows"
  | .countNotInteger found => "not an integer: " ++ found.text
  | .notObject found => "expected a JSON object, got " ++ found.text
  | .unreadableCell => "error deserializing column 0"
  | .mismatch fault => fault.message
  | .reported message => message

/-- A call of `range` as messages show it. -/
def rangeCall (first last : Nat) : String :=
  "range(" ++ natText first ++ ", " ++ natText last ++ ")"

/-- The text of a request fault. -/
def RequestFault.message : RequestFault → String
  | .payloadRow found => "write payload rows must be objects, got " ++ found.text
  | .payload found => "write payload must be an object or an array of objects, got " ++ found.text
  | .updateOfSeveral => "update() expects a single object"
  | .limitTooLarge limit =>
    "limit(" ++ natText limit ++ "): must not exceed " ++ natText maxRowBound
  | .rangeReversed first last =>
    rangeCall first last ++ ": " ++ ticked "to" ++ " must not be less than " ++ ticked "from"
  | .rangeTooLarge first last =>
    rangeCall first last ++ ": " ++ ticked "to" ++ " must be less than " ++ natText maxRowBound
  | .nothingToSet => "update() requires at least one column to set"
  | .severalEmptyRows => "cannot insert several rows that have no columns"
  | .noConflictTarget => "on_conflict() needs at least one column"
  | .reported message => message

/-- The text of a misuse. -/
def Misuse.message : Misuse → String
  | .optionsOnWrite => "count/head options only apply to select queries"
  | .writeAfterSelect operation =>
    operation.name ++
      "() cannot follow select(); call select() after the write to choose returned columns"
  | .secondWrite operation existing =>
    operation.name ++ "() cannot follow " ++ existing.name ++ "() on the same builder"
  | .reported message => message

namespace Error

/-- The text of an error. -/
def message : Error → String
  | .connection message => "Connection error: " ++ message
  | .query cause => "Query error: " ++ cause.message
  | .notFound message => "Not found: " ++ message
  | .violation kind message => kind.title ++ ": " ++ message
  | .invalidIdentifier name => "Invalid identifier: " ++ quoted name
  | .parse fault => "Parse error: " ++ fault.message
  | .decode column fault => "Decode error on column '" ++ column ++ "': " ++ fault.message
  | .validation fault => "Validation error: " ++ fault.message
  | .serialization message => "Serialization error: " ++ message
  | .misuse fault => "Builder misuse: " ++ fault.message
  | .pool message => "Pool error: " ++ message
  | .other message => message

/-- The state code of an error that a server reported. -/
def sqlstate? : Error → Option String
  | .query (.server report) => some report.sqlstate
  | .violation kind _ => some kind.sqlstate
  | _ => none

/-- A unique constraint was violated. -/
def isUniqueViolation : Error → Bool
  | .violation .unique _ => true
  | _ => false

/-- A row that was asked for does not exist. -/
def isNotFound : Error → Bool
  | .notFound _ => true
  | _ => false

/-- The violation that a state code stands for. -/
def violation? (sqlstate : String) : Option Violation :=
  [Violation.unique, .foreignKey, .check].find? (·.sqlstate == sqlstate)

/-- The error of a failed statement: a reported violation is told apart and names its constraint. -/
def ofDriver : DriverError → Error
  | .server report =>
    match violation? report.sqlstate with
    | some kind => .violation kind (report.constraint.getD "unknown" ++ ": " ++ report.message)
    | none => .query (.server report)
  | cause => .query cause

end Error

end FluentSql
