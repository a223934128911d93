import FluentSql.Json.Token

/-!
# Reading JSON text

A machine over tokens with a stack of the arrays and objects that are open. At most 127 of them may
be open at once. Only one value may stand in a text.
-/

namespace FluentSql

/-- An open array or object: what it holds so far, and for an object the key that was read last. The
items of an array are held back to front. -/
inductive Frame where
  | array (read : List Json)
  | object (fields : Row) (key : String)
deriving Repr

/-- What may come next. -/
inductive Expect where
  | value
  | firstItem
  | firstKey
  | key
  | colon
  | separator
  | finished (value : Json)
deriving Repr

/-- The machine: the open frames, innermost first, and what may come next. -/
structure Reader where
  frames : List Frame
  expect : Expect
deriving Repr

namespace Reader

/-- The number of arrays and objects that may be open at once. -/
def deepest : Nat := 127

/-- A value has been read: it goes into the innermost frame, or it is the whole text. -/
def accept (reader : Reader) (value : Json) : Reader :=
  match reader.frames with
  | [] => { reader with expect := .finished value }
  | .array read :: rest => ⟨.array (value :: read) :: rest, .separator⟩
  | .object fields key :: rest => ⟨.object (Row.insert fields key value) key :: rest, .separator⟩

/-- Opens an array or object, unless too many are open. -/
def enter (reader : Reader) (frame : Frame) (expect : Expect) : Option Reader :=
  if reader.frames.length < deepest then some ⟨frame :: reader.frames, expect⟩ else none

/-- Begins a value. -/
def begin (reader : Reader) : JsonToken → Option Reader
  | .openArray => reader.enter (.array []) .firstItem
  | .openObject => reader.enter (.object [] "") .firstKey
  | .literal value => some (reader.accept value)
  | .string value => some (reader.accept (.string value))
  | _ => none

/-- Closes the innermost array. -/
def closeArray (reader : Reader) : Option Reader :=
  match reader.frames with
  | .array read :: rest => some (accept { reader with frames := rest } (.array read.reverse))
  | _ => none

/-- Closes the innermost object. -/
def closeObject (reader : Reader) : Option Reader :=
  match reader.frames with
  | .object fields _ :: rest => some (accept { reader with frames := rest } (.object fields))
  | _ => none

/-- The key of the next field of the innermost object. -/
def takeKey (reader : Reader) (key : String) : Option Reader :=
  match reader.frames with
  | .object fields _ :: rest => some ⟨.object fields key :: rest, .colon⟩
  | _ => none

/-- Reads one token. -/
def step (reader : Reader) (token : JsonToken) : Option Reader :=
  match reader.expect, token with
  | .value, token => reader.begin token
  | .firstItem, .closeArray => reader.closeArray
  | .firstItem, token => reader.begin token
  | .firstKey, .closeObject => reader.closeObject
  | .firstKey, .string key => reader.takeKey key
  | .key, .string key => reader.takeKey key
  | .colon, .colon => some { reader with expect := .value }
  | .separator, .comma =>
    match reader.frames with
    | .array _ :: _ => some { reader with expect := .value }
    | .object _ _ :: _ => some { reader with expect := .key }
    | [] => none
  | .separator, .closeArray => reader.closeArray
  | .separator, .closeObject => reader.closeObject
  | _, _ => none

end Reader

/-- The JSON value that a text holds, if it is JSON text. -/
def Json.parse? (text : String) : Option Json := do
  let tokens ← JsonToken.scan text.toList
  let reader ← tokens.foldlM Reader.step ⟨[], .value⟩
  match reader.expect with
  | .finished value => some value
  | _ => none

end FluentSql
