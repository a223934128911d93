import FluentSql.Chain.Basic
import FluentSql.Chain.Plan
import FluentSql.Condition.Basic
import FluentSql.Condition.Filter
import FluentSql.Condition.Parse
import FluentSql.Connection.Basic
import FluentSql.Connection.ConnectionString
import FluentSql.Connection.HostAddress
import FluentSql.Connection.Pool
import FluentSql.Connection.Transaction
import FluentSql.Embedding.Guess
import FluentSql.Embedding.Naming
import FluentSql.Embedding.Resolve
import FluentSql.Error
import FluentSql.Json.Basic
import FluentSql.Json.Decode
import FluentSql.Json.Equality
import FluentSql.Json.Parse
import FluentSql.Json.Text
import FluentSql.Json.Token
import FluentSql.Number.Binary64
import FluentSql.Number.Layout
import FluentSql.Number.Numeral
import FluentSql.Number.Shortest
import FluentSql.Operation
import FluentSql.Response.Basic
import FluentSql.Response.Decode
import FluentSql.Run.Client
import FluentSql.Run.Event
import FluentSql.Run.Execution
import FluentSql.Run.Session
import FluentSql.Scripted.Client
import FluentSql.Scripted.Rule
import FluentSql.Scripted.Server
import FluentSql.Selection.Basic
import FluentSql.Selection.Parse
import FluentSql.Statement.Binding
import FluentSql.Statement.Clause
import FluentSql.Statement.Fragment
import FluentSql.Statement.Identifier
import FluentSql.Statement.Literal
import FluentSql.Statement.SqlType
import FluentSql.Text.Blank
import FluentSql.Text.Percent
import FluentSql.Text.Position
import FluentSql.Text.Quoted
import FluentSql.Text.Segments
import FluentSql.Text.Unprintable
import FluentSql.Proofs.Sql.Reading
import FluentSql.Proofs.Statement.Clause
import FluentSql.Proofs.Run.Keeps
import FluentSql.Proofs.Run.Requests
import FluentSql.Proofs.Text.Segments
import FluentSql.Proofs.Condition.Parse
import FluentSql.Proofs.Condition.Written
import FluentSql.Proofs.Embedding.Probe
import FluentSql.Proofs.Statement.Alike
import FluentSql.Proofs.Chain.Alike
import FluentSql.Proofs.Statement.Values
import FluentSql.Proofs.Chain.Kind
import FluentSql.Proofs.Chain.Values
import FluentSql.Proofs.Chain.Origin
import FluentSql.Proofs.Chain.Form
import FluentSql.Proofs.Run.Paired
import FluentSql.Proofs.Run.PairedRun
import FluentSql.Proofs.Run.Cut
import FluentSql.Proofs.Run.Log
import FluentSql.Proofs.Run.Composed
import FluentSql.Proofs.Embedding.Beside
import FluentSql.Proofs.Chain.Requested
import FluentSql.Proofs.Run.Course
import FluentSql.Proofs.Run.Law
import FluentSql.Proofs.Sql.Spelling
import FluentSql.Proofs.Sql.Predicate
import FluentSql.Proofs.Condition.Meaning
import FluentSql.Proofs.Sql.Meaning
import FluentSql.Proofs.Run.Observation
import FluentSql.Proofs.Connection.Transaction
import FluentSql.Proofs.Number.Plain
import FluentSql.Proofs.Condition.Sent
import FluentSql.Proofs.Text.Rejoined
import FluentSql.Proofs.Selection.Printed
import FluentSql.Proofs.Selection.Rejected
import FluentSql.Proofs.Chain.Batch
import FluentSql.Proofs.Embedding.Column
import FluentSql.Proofs.Embedding.Frame
import FluentSql.Proofs.Embedding.Exchange
import FluentSql.Proofs.Chain.Reordered
import FluentSql.Proofs.Statement.Names
import FluentSql.Proofs.Chain.Names
import FluentSql.Proofs.Chain.Scope
import FluentSql.Proofs.Chain.Count
import FluentSql.Proofs.Chain.Page
import FluentSql.Proofs.Json.Word
import FluentSql.Proofs.Json.Inside
import FluentSql.Proofs.Sql.Literal
import FluentSql.Proofs.Chain.Inlined
import FluentSql.Proofs.Statement.ArrayLiteral
import FluentSql.Proofs.Statement.Elements
import FluentSql.Proofs.Chain.Unscoped
import FluentSql.Proofs.Embedding.Naming
import FluentSql.Proofs.Response.RoundTrip
import FluentSql.Proofs.Statement.Sheet
import FluentSql.Proofs.Text.Split
