import FluentSql.Json.Text
import FluentSql.Text.Quoted

/-!
# Decoding JSON values

Decoders from JSON values to typed ones, and the mismatches they report. A record is decoded from an
object field by field, in the order in which the object names them, or from an array item by item.
-/

namespace FluentSql

/-- What a decoder expects to find. -/
inductive Expected where
  | int64
  | float
  | boolean
  | string
  | sequence
  | unit
  | variant
  | record (name : String)
deriving DecidableEq, Repr

/-- The words for what was expected. -/
def Expected.text : Expected → String
  | .int64 => "i64"
  | .float => "f64"
  | .boolean => "a boolean"
  | .string => "a string"
  | .sequence => "a sequence"
  | .unit => "unit"
  | .variant => "string or map"
  | .record name => "struct " ++ name

/-- Why a JSON value does not decode. -/
inductive Mismatch where
  | wrongType (found : Json) (expected : Expected)
  /-- An integer outside the signed 64-bit range. -/
  | outOfRange (value : Int)
  | missingField (name : String)
  | unknownVariant (found : String) (known : List String)
  /-- A variant written as an object has one key. -/
  | notSingleKey
  | tooShort (length : Nat) (record : String) (fields : Nat)
  | tooLong (length : Nat)
deriving Repr

/-- Text between grave accents. -/
def ticked (text : String) : String := "\x60" ++ text ++ "\x60"

/-- The words for a value that was found. -/
def Json.described : Json → String
  | .null => "null"
  | .bool value => "boolean " ++ ticked (if value then "true" else "false")
  | .number (.int value) => "integer " ++ ticked (intText value)
  | .number (.float value) => "floating point " ++ ticked value.text
  | .string value => "string " ++ quoted value
  | .array _ => "sequence"
  | .object _ => "map"

/-- The text of a mismatch. -/
def Mismatch.message : Mismatch → String
  | .wrongType found expected =>
    "invalid type: " ++ found.described ++ ", expected " ++ expected.text
  | .outOfRange value =>
    "invalid value: integer " ++ ticked (intText value) ++ ", expected " ++ Expected.int64.text
  | .missingField name => "missing field " ++ ticked name
  | .unknownVariant found known =>
    "unknown variant " ++ ticked found ++ ", expected one of " ++
      ", ".intercalate (known.map ticked)
  | .notSingleKey => "invalid value: map, expected map with a single key"
  | .tooShort length record fields =>
    "invalid length " ++ natText length ++ ", expected " ++ (Expected.record record).text ++
      " with " ++ natText fields ++ " elements"
  | .tooLong length =>
    "invalid length " ++ natText length ++ ", expected fewer elements in array"

/-- Reads values of a type from JSON values. -/
abbrev Decoder (α : Type) := Json → Except Mismatch α

namespace Decoder

/-- Any value, as it is. -/
def json : Decoder Json := .ok

/-- A signed 64-bit integer. -/
def int64 : Decoder Int
  | .number (.int value) => if isInt64 value then .ok value else .error (.outOfRange value)
  | found => .error (.wrongType found .int64)

/-- A binary number; an integer goes to the nearest one. -/
def float : Decoder Binary64
  | .number (.float value) => .ok value
  | .number (.int value) =>
    .ok ((Binary64.ofFraction (value < 0) value.natAbs 1).getD (.zero (value < 0)))
  | found => .error (.wrongType found .float)

/-- A boolean. -/
def boolean : Decoder Bool
  | .bool value => .ok value
  | found => .error (.wrongType found .boolean)

/-- A string. -/
def string : Decoder String
  | .string value => .ok value
  | found => .error (.wrongType found .string)

/-- `null`, which carries nothing. -/
def unit : Decoder Unit
  | .null => .ok ()
  | found => .error (.wrongType found .unit)

/-- A value that may be `null`. -/
def optional {α : Type} (decode : Decoder α) : Decoder (Option α)
  | .null => .ok none
  | found => (decode found).map some

/-- An array, item by item. -/
def list {α : Type} (decode : Decoder α) : Decoder (List α)
  | .array items => items.mapM decode
  | found => .error (.wrongType found .sequence)

/-- One of several names, alone or as the only key of an object with the value `null`. -/
def variant {α : Type} (variants : List (String × α)) : Decoder α
  | .string name => named name
  | .object [(name, value)] => do
    let found ← named name
    unit value
    .ok found
  | .object _ => .error .notSingleKey
  | found => .error (.wrongType found .variant)
where
  named (name : String) : Except Mismatch α :=
    match variants.lookup name with
    | some found => .ok found
    | none => .error (.unknownVariant name (variants.map Prod.fst))

/-- Where a field of a record has to be present. -/
inductive Presence where
  /-- In objects and in arrays. -/
  | required
  /-- In arrays only: an object may leave the field out. -/
  | positional
  /-- Nowhere: an object may leave the field out, and an array may end before it. -/
  | optional
deriving DecidableEq, Repr

/-- A field of a record: its name, where it is needed, and how its value is read into the record. -/
structure Field (α : Type) where
  name : String
  presence : Presence
  read : Json → α → Except Mismatch α

/-- Reads the fields that an object names, in its order. Names that the record lacks are skipped. -/
def readNamed {α : Type} (fields : List (Field α)) : Row → α → Except Mismatch α
  | [], record => .ok record
  | (key, value) :: rest, record => do
    let record ← match fields.find? (·.name == key) with
      | some field => field.read value record
      | none => .ok record
    readNamed fields rest record

/-- Reads the items of an array into the fields in their order; `index` of the `total` fields have
been passed. -/
def readPositional {α : Type} (name : String) (total length : Nat) :
    (index : Nat) → List (Field α) → List Json → α → Except Mismatch α
  | _, [], [], record => .ok record
  | _, [], _ :: _, _ => .error (.tooLong length)
  | index, field :: fields, [], record =>
    if field.presence = .optional then
      readPositional name total length (index + 1) fields [] record
    else .error (.tooShort index name total)
  | index, field :: fields, item :: items, record => do
    let record ← field.read item record
    readPositional name total length (index + 1) fields items record

/-- A record. Reading starts from `blank`, which holds what the fields that may be missing then are.
-/
def record {α : Type} (name : String) (fields : List (Field α)) (blank : α) : Decoder α
  | .object row => do
    let found ← readNamed fields row blank
    let isMissing := fun (field : Field α) =>
      field.presence = .required && (row.lookup field.name).isNone
    match fields.find? isMissing with
    | some field => .error (.missingField field.name)
    | none => .ok found
  | .array items => readPositional name fields.length items.length 0 fields items blank
  | found => .error (.wrongType found (.record name))

end Decoder

end FluentSql
