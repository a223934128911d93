import FluentSql.Response.Basic

/-!
# Decoding responses

Reading failures and responses back from JSON values. Data and error may be left out of an object,
but not of an array; the state code and the count may be left out of either.
-/

namespace FluentSql

namespace FailureCode

/-- Reads a code by its name. -/
def decode : Decoder FailureCode := Decoder.variant names

end FailureCode

namespace Failure

/-- The fields of a failure. -/
def fields : List (Decoder.Field Failure) :=
  [{ name := "code"
     presence := .required
     read := fun value failure => do .ok { failure with code := ← FailureCode.decode value } },
   { name := "message"
     presence := .required
     read := fun value failure => do .ok { failure with message := ← Decoder.string value } },
   { name := "sqlstate"
     presence := .optional
     read := fun value failure => do
       .ok { failure with sqlstate := ← Decoder.optional Decoder.string value } }]

/-- Reads a failure. -/
def decode : Decoder Failure := Decoder.record "ResponseError" fields ⟨.executionFailure, "", none⟩

end Failure

namespace Response

/-- The fields of a response. -/
def fields : List (Decoder.Field Response) :=
  [{ name := "data"
     presence := .positional
     read := fun value response => do
       .ok { response with data := ← Decoder.optional Decoder.json value } },
   { name := "error"
     presence := .positional
     read := fun value response => do
       .ok { response with error := ← Decoder.optional Failure.decode value } },
   { name := "count"
     presence := .optional
     read := fun value response => do
       .ok { response with count := ← Decoder.optional Decoder.int64 value } }]

/-- Reads a response. -/
def decode : Decoder Response := Decoder.record "Response" fields ⟨none, none, none⟩

end Response

end FluentSql
