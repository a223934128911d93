import FluentSql.Error

/-!
# Clients

What carries statements out: anything that answers a statement and its bound values with rows or an
error, and whose state may change with every statement.
-/

namespace FluentSql

/-- A statement that is handed to a client. -/
structure Request where
  /-- A mark by which the statement can be recognised. -/
  tag : Option String
  sql : String
  params : List Json
deriving Repr

/-- A client with a state. -/
structure Client (σ : Type) where
  answer : Request → σ → Except Error (List Row) × σ

namespace Client

variable {σ : Type}

/-- A client whose answers depend on the statement and its values only. -/
def ofAnswers (answers : String → List Json → Except Error (List Row)) : Client Unit :=
  ⟨fun request _ => (answers request.sql request.params, ())⟩

/-- A client to which tags do not get through. -/
def untagged (client : Client σ) : Client σ :=
  ⟨fun request => client.answer { request with tag := none }⟩

/-- A client that keeps the requests it has received, in order. -/
def recording (client : Client σ) : Client (σ × List Request) :=
  ⟨fun request (state, received) =>
    let (outcome, state) := client.answer request state
    (outcome, state, received ++ [request])⟩

end Client

end FluentSql
