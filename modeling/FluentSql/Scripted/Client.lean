import FluentSql.Run.Client
import FluentSql.Scripted.Rule

/-!
# Scripted clients

A client that replies from a script, for trying chains out without a server.
-/

namespace FluentSql

/-- What a scripted client replies: rows, or an error. -/
abbrev ClientReply := Except Error (List Row)

/-- A client whose state is its script. A statement that no rule matches is an error. -/
def Client.scripted : Client (Script ClientReply) :=
  ⟨fun request script =>
    match script.take (·.matchesStatement request.sql request.params) with
    | (some reply, script) => (reply, script)
    | (none, script) => (.error (.other ("unexpected statement: " ++ request.sql)), script)⟩

end FluentSql
