import FluentSql.Condition.Filter
import FluentSql.Text.Position

/-!
# Chains of calls

A request is a chain of calls on a table. The calls are taken in order into a draft; the first call
that does not go with the ones before it, or whose arguments are out of range, is the error of the
whole chain.
-/

namespace FluentSql

/-- What a select returns besides or instead of rows. -/
structure SelectExtras where
  /-- The number of all rows that match, whatever the page. -/
  exactCount : Bool
  /-- No rows. -/
  headOnly : Bool
deriving DecidableEq, Repr

/-- Rows and no count. -/
def SelectExtras.default : SelectExtras := ⟨false, false⟩

/-- A sort key. -/
structure OrderKey where
  column : String
  ascending : Bool
  /-- Where nulls go, if that is said. -/
  nullsFirst : Option Bool
deriving DecidableEq, Repr

/-- How many rows a caller expects. -/
inductive RowDemand where
  | many
  | one
  | atMostOne
deriving DecidableEq, Repr

/-- How the rows to write were given. -/
inductive PayloadForm where
  | object
  | array
deriving DecidableEq, Repr

/-- Rows to write. -/
structure Payload where
  shape : PayloadForm
  rows : List Row
deriving Repr

/-- One of several rows to write. -/
def Payload.rowOfJson : Json → Except Error Row
  | .object row => .ok row
  | item => .error (.validation (.payloadRow item))

/-- The rows of a value that is to be written: one object, or an array of objects. -/
def Payload.ofJson : Json → Except Error Payload
  | .object row => .ok ⟨.object, [row]⟩
  | .array items => (items.mapM rowOfJson).map (⟨.array, ·⟩)
  | value => .error (.validation (.payload value))

/-- What a caller hands over to be written: a value, or why there is none. -/
abbrev Input := Except String Json

/-- The rows of an input. A reason that ends with a position tells it in plain numbers. -/
def Payload.ofInput : Input → Except Error Payload
  | .ok value => Payload.ofJson value
  | .error reason => .error (.serialization (Position.plainReason reason))

/-- A call of a chain. -/
inductive Call where
  | select (columns : String) (options : SelectExtras)
  | insert (input : Input)
  | update (input : Input)
  | upsert (input : Input)
  | delete
  | onConflict (columns : String)
  | filter (filter : Filter)
  /-- One filter of equality per pair. -/
  | matching (pairs : List (String × Json))
  | order (key : OrderKey)
  | limit (count : Nat)
  /-- The rows from the first to the last, counted from zero. -/
  | range (first last : Nat)
  | one
  | atMostOne

/-- A table and the calls on it. -/
structure Chain where
  table : String
  calls : List Call

/-- What a draft is to do, with what it needs for that. -/
inductive Action where
  /-- Nothing has been said yet. -/
  | undecided
  | select (options : SelectExtras)
  | insert (payload : Payload)
  | upsert (payload : Payload)
  | update (row : Row)
  | delete
deriving Repr

/-- The operation that an action leads to; a chain that says nothing selects. -/
def Action.operation : Action → Operation
  | .undecided | .select _ => .select
  | .insert _ => .insert
  | .upsert _ => .upsert
  | .update _ => .update
  | .delete => .delete

/-- What the calls of a chain have said so far. -/
structure Draft where
  table : String
  action : Action
  /-- The select list, if one was given. -/
  columns : Option String
  filters : List Filter
  order : List OrderKey
  limit : Option Nat
  range : Option (Nat × Nat)
  demand : RowDemand
  conflictTarget : Option String
deriving Repr

namespace Draft

/-- A draft before the first call. -/
def new (table : String) : Draft :=
  { table, action := .undecided, columns := none, filters := [], order := [], limit := none,
    range := none, demand := .many, conflictTarget := none }

/-- Takes a write, which must be the first operation of the chain. -/
def write (draft : Draft) (operation : Operation) (action : Except Error Action) :
    Except Error Draft :=
  match draft.action with
  | .undecided => action.map fun action => { draft with action }
  | .select _ => .error (.misuse (.writeAfterSelect operation))
  | existing => .error (.misuse (.secondWrite operation existing.operation))

/-- The action of an update, which takes one object. -/
def updateAction (input : Input) : Except Error Action := do
  let payload ← Payload.ofInput input
  match payload with
  | ⟨.object, [row]⟩ => .ok (.update row)
  | _ => .error (.validation .updateOfSeveral)

/-- Takes a select list. After a write it says what the write returns, and options have no place
there. -/
def select (draft : Draft) (columns : String) (options : SelectExtras) : Except Error Draft :=
  match draft.action with
  | .undecided | .select _ => .ok { draft with action := .select options, columns := some columns }
  | _ =>
    if options = .default then .ok { draft with columns := some columns }
    else .error (.misuse .optionsOnWrite)

/-- Takes a row limit. -/
def setLimit (draft : Draft) (count : Nat) : Except Error Draft :=
  if maxRowBound < count then .error (.validation (.limitTooLarge count))
  else .ok { draft with limit := some count }

/-- Takes a range of rows. -/
def setRange (draft : Draft) (first last : Nat) : Except Error Draft :=
  if last < first then .error (.validation (.rangeReversed first last))
  else if maxRowBound ≤ last then .error (.validation (.rangeTooLarge first last))
  else .ok { draft with range := some (first, last) }

/-- Takes one call. -/
def call (draft : Draft) : Call → Except Error Draft
  | .select columns options => draft.select columns options
  | .insert input => draft.write .insert ((Payload.ofInput input).map .insert)
  | .upsert input => draft.write .upsert ((Payload.ofInput input).map .upsert)
  | .update input => draft.write .update (updateAction input)
  | .delete => draft.write .delete (.ok .delete)
  | .onConflict columns => .ok { draft with conflictTarget := some columns }
  | .filter filter => .ok { draft with filters := draft.filters ++ [filter] }
  | .matching pairs =>
    .ok { draft with
      filters := draft.filters ++ pairs.map fun (column, value) => .compare .eq column value }
  | .order key => .ok { draft with order := draft.order ++ [key] }
  | .limit count => draft.setLimit count
  | .range first last => draft.setRange first last
  | .one => .ok { draft with demand := .one }
  | .atMostOne => .ok { draft with demand := .atMostOne }

/-- The draft of a chain. -/
def ofChain (chain : Chain) : Except Error Draft := chain.calls.foldlM call (new chain.table)

end Draft

end FluentSql
