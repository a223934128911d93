import FluentSql.Selection.Basic
import FluentSql.Run.Session

/-!
# Resolving embeds

Finding the related rows that are to be embedded in a row. The foreign key may lie in the row
itself: in the column that the embed names, or in one that the names of tables suggest. Else it lies
in the related table, whose columns are probed one after another until a statement does not fail.
Related rows have their own embeds resolved in the same way.
-/

namespace FluentSql

/-- How far a piece of work has come: the value so far, and the error that stopped it, if one did.
-/
structure Progress (α : Type) where
  value : α
  stopped : Option Error

/-- The value of work that was not stopped. -/
def Progress.result {α : Type} (progress : Progress α) : Except Error α :=
  match progress.stopped with
  | some error => .error error
  | none => .ok progress.value

/-- The value of a column that is not null. -/
def Row.present? (row : Row) (column : String) : Option Json :=
  (row.get? column).filter (!·.isNull)

namespace Embed

/-- The statement that selects the related rows with a value in a column. -/
def statement (embed : Embed) (column : String) (value : Json) (ending : String) :
    Except Error Fragment := do
  let ref ← ColumnRef.ofNames embed.table column
  .ok (Fragment.text ("SELECT " ++ embed.selection.columnListSql ref.table ++ " FROM " ++
      ref.table.sql ++ " WHERE " ++ ref.sql ++ " = ") ++
    Fragment.bound value ++ Fragment.text ending)

/-- The value of an embed that was found by a probe: one row by itself, and any other number as an
array. -/
def ofProbe : List Row → Json
  | [row] => .object row
  | rows => .array (rows.map .object)

/-- The value of an embed that was found by its primary key. -/
def ofKey : List Row → Json
  | [] => .null
  | row :: _ => .object row

end Embed

namespace Runner

variable {σ : Type}

/-- What is done with related rows before they are embedded. -/
abbrev Completion (σ : Type) := List Row → Run σ (List Row)

/-- Sends a statement for related rows and completes them. -/
def fetchRelated (runner : Runner σ) (complete : Completion σ)
    (statement : Except Error Fragment) : Run σ (List Row) := do
  let fragment ← ExceptT.mk (pure statement)
  let rows ← runner.fetch fragment
  complete rows

/-- The related row with a primary key. -/
def fetchByKey (runner : Runner σ) (complete : Completion σ) (embed : Embed) (key : Json) :
    Run σ Json := do
  let rows ← runner.fetchRelated complete
    (embed.statement runner.settings.convention.primaryKey key " LIMIT 1")
  pure (Embed.ofKey rows)

/-- Probes columns of the related table in order, `failed` of which have failed before. -/
def probe (runner : Runner σ) (complete : Completion σ) (embed : Embed) (base : String)
    (key : Json) : (failed : Nat) → List String → InSession σ Json
  | _, [] => pure .null
  | failed, column :: rest => do
    match ← (runner.fetchRelated complete (embed.statement column key "")).run with
    | .ok rows =>
      if 0 < failed then logEvent (.lateProbe embed.table base column (failed + 1))
      pure (Embed.ofProbe rows)
    | .error error =>
      logEvent (.probeFailed embed.table column error)
      runner.probe complete embed base key (failed + 1) rest

/-- The foreign key that the row itself holds: in the column that the embed names, or in one of the
guesses. -/
def findKey (runner : Runner σ) (embed : Embed) (row : Row) : InSession σ (Option Json) := do
  let guessed := (runner.settings.convention.forwardGuesses embed.table).findSome? row.present?
  match embed.foreignKey with
  | none => pure guessed
  | some column =>
    match row.present? column with
    | some key => pure (some key)
    | none =>
      logEvent (.keyMissing embed.table column)
      pure guessed

/-- The value of an embed in a row of the base table. -/
def embedValue (runner : Runner σ) (complete : Completion σ) (embed : Embed) (base : String)
    (row : Row) : Run σ Json := do
  let convention := runner.settings.convention
  match ← runner.findKey embed row with
  | some key => runner.fetchByKey complete embed key
  | none =>
    match row.present? convention.primaryKey with
    | none => pure .null
    | some key => runner.probe complete embed base key 0 (convention.reverseGuesses base)

/-- Works on rows in order, until one stops the work. -/
def eachRow (work : Row → InSession σ (Progress Row)) : List Row → InSession σ (Progress (List Row))
  | [] => pure ⟨[], none⟩
  | row :: rest => do
    let first ← work row
    match first.stopped with
    | some error => pure ⟨first.value :: rest, some error⟩
    | none =>
      let later ← eachRow work rest
      pure ⟨first.value :: later.value, later.stopped⟩

mutual

/-- Resolves an embed in a row of the base table. -/
def resolveEmbed (runner : Runner σ) : Embed → (base : String) → Row → Run σ Json
  | ⟨table, foreignKey, columns, embeds⟩, base, row =>
    runner.embedValue
      (fun related => ExceptT.mk do
        let progress ← eachRow (runner.resolveRow embeds table) related
        pure progress.result)
      ⟨table, foreignKey, columns, embeds⟩ base row

/-- Resolves embeds in a row of the base table, in order; each is put under the name of its table.
-/
def resolveRow (runner : Runner σ) :
    List Embed → (base : String) → Row → InSession σ (Progress Row)
  | [], _, row => pure ⟨row, none⟩
  | embed :: rest, base, row => do
    match ← (runner.resolveEmbed embed base row).run with
    | .error error => pure ⟨row, some error⟩
    | .ok value => runner.resolveRow rest base (row.insert embed.table value)

end

/-- Resolves embeds in rows of the base table, in order. -/
def resolveRows (runner : Runner σ) (embeds : List Embed) (base : String) (rows : List Row) :
    InSession σ (Progress (List Row)) :=
  eachRow (runner.resolveRow embeds base) rows

end Runner

end FluentSql
