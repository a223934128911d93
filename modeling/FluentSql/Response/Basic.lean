import FluentSql.Error

/-!
# Responses

The envelope in which every run of a chain is answered: data, a failure or neither, and a count
where one was asked for. A failure carries a code, which tells a caller what kind of error it was.
-/

namespace FluentSql

/-- The class of a failure. -/
inductive FailureCode where
  /-- A row that had to exist does not. -/
  | noRows
  | invalidIdentifier
  | malformedFilter
  | uniqueViolation
  | foreignKeyViolation
  | checkViolation
  /-- The request contradicts itself. -/
  | invalidRequest
  /-- The data do not have the expected form. -/
  | decodeFailure
  | executionFailure
deriving DecidableEq, Repr

namespace FailureCode

/-- The codes with their names. -/
def names : List (String × FailureCode) :=
  [("no-rows", .noRows), ("invalid-identifier", .invalidIdentifier),
   ("malformed-filter", .malformedFilter), ("unique-violation", .uniqueViolation),
   ("foreign-key-violation", .foreignKeyViolation), ("check-violation", .checkViolation),
   ("invalid-request", .invalidRequest), ("decode-failure", .decodeFailure),
   ("execution-failure", .executionFailure)]

/-- The name of a code. -/
def name : FailureCode → String
  | .noRows => "no-rows"
  | .invalidIdentifier => "invalid-identifier"
  | .malformedFilter => "malformed-filter"
  | .uniqueViolation => "unique-violation"
  | .foreignKeyViolation => "foreign-key-violation"
  | .checkViolation => "check-violation"
  | .invalidRequest => "invalid-request"
  | .decodeFailure => "decode-failure"
  | .executionFailure => "execution-failure"

theorem lookup_name (code : FailureCode) : names.lookup code.name = some code := by
  cases code <;> decide

end FailureCode

/-- The code of an error. -/
def Error.code : Error → FailureCode
  | .notFound _ => .noRows
  | .invalidIdentifier _ => .invalidIdentifier
  | .parse _ => .malformedFilter
  | .violation .unique _ => .uniqueViolation
  | .violation .foreignKey _ => .foreignKeyViolation
  | .violation .check _ => .checkViolation
  | .validation _ | .serialization _ | .misuse _ => .invalidRequest
  | .decode _ _ => .decodeFailure
  | .connection _ | .query _ | .pool _ | .other _ => .executionFailure

/-- An error as a caller sees it. -/
structure Failure where
  code : FailureCode
  message : String
  /-- The state code, if a server reported the error. -/
  sqlstate : Option String
deriving DecidableEq, Repr

namespace Failure

/-- The failure of an error. -/
def ofError (error : Error) : Failure := ⟨error.code, error.message, error.sqlstate?⟩

/-- A unique constraint was violated. -/
def isConflict (failure : Failure) : Bool := failure.code == .uniqueViolation

/-- A row that had to exist does not. -/
def isNotFound (failure : Failure) : Bool := failure.code == .noRows

/-- The failure in one line. -/
def text (failure : Failure) : String := "[" ++ failure.code.name ++ "] " ++ failure.message

/-- The failure as a JSON value; a state code that is missing is left out. -/
def json (failure : Failure) : Json :=
  .object ([("code", .string failure.code.name), ("message", .string failure.message)] ++
    match failure.sqlstate with
    | some state => [("sqlstate", .string state)]
    | none => [])

end Failure

/-- The answer to a chain. -/
structure Response where
  data : Option Json
  error : Option Failure
  count : Option Int
deriving Repr

namespace Response

/-- A success. -/
def ok (data : Option Json) (count : Option Int) : Response := ⟨data, none, count⟩

/-- A failure. -/
def fail (error : Error) : Response := ⟨none, some (Failure.ofError error), none⟩

/-- The chain succeeded. -/
def isOk (response : Response) : Bool := response.error.isNone

/-- The data, or the failure. -/
def result (response : Response) : Except Failure (Option Json) :=
  match response.error with
  | some failure => .error failure
  | none => .ok response.data

/-- The data as values of a type, or the failure; data of another form are a failure, too. -/
def dataAs {α : Type} (decode : Decoder α) (response : Response) : Except Failure (Option α) := do
  match ← response.result with
  | none => .ok none
  | some value =>
    match decode value with
    | .ok found => .ok (some found)
    | .error mismatch => .error (Failure.ofError (.decode "data" (.mismatch mismatch)))

/-- The response as a JSON value; a count that was not asked for is left out. -/
def json (response : Response) : Json :=
  .object ([("data", response.data.getD .null),
      ("error", (response.error.map Failure.json).getD .null)] ++
    match response.count with
    | some count => [("count", .int count)]
    | none => [])

/-- The JSON text of the response. -/
def text (response : Response) : String := response.json.text

end Response

end FluentSql
