import FluentSql.Proofs.Number.Plain
import FluentSql.Proofs.Run.PairedRun
import FluentSql.Response.Decode

/-!
# Responses that are read back

A response is written as a JSON value and read back from it. Data that are null would be taken for
missing data then, and a count beyond the signed 64-bit range would be refused. Neither is ever read
from a JSON value, and neither comes out of a run, so these responses are read back as they were.

Results:
1. `Response.decode_json_iff`: which responses are read back as they were.
2. `Response.regular_of_decode`: every response that is read is among them.
3. `Runner.regular_run`: so is every response of a run.
4. `Response.read_back`: both, put together.
-/

namespace FluentSql

/-! ## Records -/

namespace Decoder

variable {α : Type} {fields : List (Field α)} {holds : α → Prop}

/-- The next field that an object names is one of the record. -/
theorem readNamed_known {key : String} {field : Field α}
    (known : fields.find? (·.name == key) = some field) (value : Json) (rest : Row) (record : α) :
    readNamed fields ((key, value) :: rest) record =
      field.read value record >>= readNamed fields rest := by
  rw [readNamed, known]

/-- What holds of a record still holds after a field has been read into it. -/
def FieldsKeep (fields : List (Field α)) (holds : α → Prop) : Prop :=
  ∀ field ∈ fields, ∀ value before after, holds before → field.read value before = .ok after →
    holds after

theorem FieldsKeep.readNamed (keep : FieldsKeep fields holds) {row : Row} {start found : α}
    (begins : holds start) (read : Decoder.readNamed fields row start = .ok found) : holds found := by
  induction row generalizing start with
  | nil =>
    cases read
    exact begins
  | cons entry rest ih =>
    obtain ⟨key, value⟩ := entry
    cases known : fields.find? (·.name == key) with
    | none =>
      rw [Decoder.readNamed, known] at read
      exact ih begins read
    | some field =>
      rw [readNamed_known known] at read
      obtain ⟨next, stepped, read⟩ := bind_eq_ok_iff.mp read
      exact ih (keep field (List.mem_of_find?_eq_some known) value start next begins stepped) read

theorem FieldsKeep.readPositional (keep : FieldsKeep fields holds) {name : String}
    {total length index : Nat} {items : List Json} {start found : α} (begins : holds start)
    (read : Decoder.readPositional name total length index fields items start = .ok found) :
    holds found := by
  induction fields generalizing index items start with
  | nil =>
    cases items with
    | nil =>
      cases read
      exact begins
    | cons item items => cases read
  | cons field rest ih =>
    have later : FieldsKeep rest holds :=
      fun other present => keep other (List.mem_cons_of_mem field present)
    cases items with
    | nil =>
      rw [Decoder.readPositional] at read
      split at read
      · exact ih later begins read
      · cases read
    | cons item items =>
      rw [Decoder.readPositional] at read
      obtain ⟨next, stepped, read⟩ := bind_eq_ok_iff.mp read
      exact ih later (keep field List.mem_cons_self item start next begins stepped) read

/-- What holds of the blank record, and still holds after each field, holds of every record that is
read. -/
theorem FieldsKeep.record (keep : FieldsKeep fields holds) {name : String} {blank : α}
    (begins : holds blank) {json : Json} {found : α}
    (read : Decoder.record name fields blank json = .ok found) : holds found := by
  cases json with
  | object row =>
    obtain ⟨named, complete, same⟩ := bind_eq_ok_iff.mp read
    dsimp only at same
    split at same
    · cases same
    · cases same
      exact keep.readNamed begins complete
  | array items => exact keep.readPositional begins read
  | null | bool | number | string => cases read

/-! ## Values -/

/-- Missing data are the only data that are read from `null`. -/
theorem ne_null_of_optional_json {value : Json} {data : Option Json}
    (read : optional json value = .ok data) : data ≠ some .null := by
  rintro rfl
  cases value <;> cases read

theorem optional_json_getD {data : Option Json} (present : data ≠ some .null) :
    optional json (data.getD .null) = .ok data := by
  cases data with
  | none => rfl
  | some value =>
    cases value with
    | null => exact absurd rfl present
    | bool | number | string | array | object => rfl

theorem optional_int64_eq_some_iff {value : Json} {n : Int} :
    optional int64 value = .ok (some n) ↔ value = .int n ∧ isInt64 n = true := by
  cases value with
  | number number =>
    cases number with
    | int m =>
      by_cases within : isInt64 m = true
      · have read : optional int64 (.number (.int m)) = .ok (some m) := by
          simp [optional, int64, within]
        rw [read]
        simp only [Except.ok.injEq, Option.some.injEq, Json.int, Json.number.injEq, Number.int.injEq]
        constructor
        · rintro rfl
          exact ⟨rfl, within⟩
        · exact And.left
      · have refused : optional int64 (.number (.int m)) = .error (.outOfRange m) := by
          simp [optional, int64, within]
        rw [refused]
        refine iff_of_false nofun ?_
        rintro ⟨same, inside⟩
        cases same
        exact within inside
    | float => exact iff_of_false nofun nofun
  | null | bool | string | array | object => exact iff_of_false nofun nofun

end Decoder

open Decoder

/-! ## Failures -/

theorem FailureCode.decode_name (code : FailureCode) : decode (.string code.name) = .ok code := by
  show variant.named names code.name = .ok code
  rw [variant.named, lookup_name]

/-- Every failure is read back as it was. -/
theorem Failure.decode_json (failure : Failure) : decode failure.json = .ok failure := by
  obtain ⟨code, message, sqlstate⟩ := failure
  cases sqlstate <;>
    simp [decode, json, record, readNamed, fields, FailureCode.decode_name, Decoder.string,
      Decoder.optional]

/-! ## Responses -/

namespace Response

/-- The data, if there are any, are not null, and the count is in the signed 64-bit range. -/
structure Regular (response : Response) : Prop where
  data : response.data ≠ some .null
  count : ∀ count, response.count = some count → isInt64 count = true

/-- A failure that may be missing is read back as it was. -/
theorem optional_failure (error : Option Failure) :
    optional Failure.decode ((error.map Failure.json).getD .null) = .ok error := by
  cases error with
  | none => rfl
  | some failure =>
    show (Failure.decode failure.json).map some = _
    rw [Failure.decode_json]
    rfl

theorem Regular.decode_json {response : Response} (regular : response.Regular) :
    decode response.json = .ok response := by
  obtain ⟨data, error, count⟩ := response
  have dataRead := optional_json_getD regular.data
  have errorRead := optional_failure error
  cases count with
  | none => simp [decode, json, record, readNamed, fields, dataRead, errorRead]
  | some n =>
    have countRead := optional_int64_eq_some_iff.mpr ⟨rfl, regular.count n rfl⟩
    simp [decode, json, record, readNamed, fields, dataRead, errorRead, countRead]

theorem regular_blank : Regular ⟨none, none, none⟩ := ⟨by simp, by simp⟩

theorem regular_fail (error : Error) : (fail error).Regular := ⟨by simp [fail], by simp [fail]⟩

theorem fieldsKeep_regular : FieldsKeep fields Regular := by
  intro field present value before after regular read
  simp only [fields, List.mem_cons, List.not_mem_nil, or_false] at present
  rcases present with rfl | rfl | rfl
  · obtain ⟨data, found, same⟩ := bind_eq_ok_iff.mp read
    cases same
    exact ⟨ne_null_of_optional_json found, regular.count⟩
  · obtain ⟨error, -, same⟩ := bind_eq_ok_iff.mp read
    cases same
    exact ⟨regular.data, regular.count⟩
  · obtain ⟨count, found, same⟩ := bind_eq_ok_iff.mp read
    cases same
    refine ⟨regular.data, ?_⟩
    rintro n rfl
    exact (optional_int64_eq_some_iff.mp found).2

/-- Every response that is read is regular, whatever it is read from. -/
theorem regular_of_decode {json : Json} {response : Response} (read : decode json = .ok response) :
    response.Regular :=
  fieldsKeep_regular.record regular_blank read

/-- Just the regular responses are read back as they were. -/
theorem decode_json_iff {response : Response} :
    decode response.json = .ok response ↔ response.Regular :=
  ⟨regular_of_decode, Regular.decode_json⟩

end Response

/-! ## Runs -/

namespace Run

variable {σ α β : Type} {kind : α → Prop} {kind' : β → Prop} {work : Run σ α}

/-- The work comes to a value of a kind, unless it fails. -/
def Yields (kind : α → Prop) (work : Run σ α) : Prop :=
  ∀ session value, (work.run session).1 = .ok value → kind value

theorem yields_any (work : Run σ α) : Yields (fun _ => True) work := fun _ _ _ => trivial

theorem yields_pure {value : α} (good : kind value) : Yields kind (pure value : Run σ α) := by
  rintro session _ ⟨⟩
  exact good

theorem yields_ofExcept {outcome : Except Error α} (good : ∀ value, outcome = .ok value → kind value) :
    Yields kind (ExceptT.mk (pure outcome) : Run σ α) := fun _ => good

theorem Yields.bind (first : Yields kind work) {next : α → Run σ β}
    (later : ∀ value, kind value → Yields kind' (next value)) : Yields kind' (work >>= next) := by
  intro session result succeeds
  cases worked : work.run session with
  | mk outcome done =>
    cases outcome with
    | error error =>
      rw [bind_of_error worked] at succeeds
      cases succeeds
    | ok value =>
      rw [bind_of_ok worked] at succeeds
      exact later value (first session value (by rw [worked])) done result succeeds

end Run

open Run

theorem isInt64_of_readCount {rows : List Row} {count : Int} (read : readCount rows = .ok count) :
    isInt64 count = true := isInt64_iff.mpr (tellsCount_of_readCount read).1

namespace Runner

variable {σ : Type}

/-- The rows of a plan are shown as an object or an array, or not at all. -/
theorem rowData_ne_null (plan : Plan) (rows : List Row) : plan.rowData rows ≠ some .null := by
  rw [Plan.rowData]
  split
  · cases rows <;> simp
  · simp

theorem yields_shape (runner : Runner σ) (plan : Plan) (rows : List Row) :
    Yields (fun data => data ≠ some Json.null) (runner.shape plan rows) :=
  (yields_any _).bind fun _ _ => (yields_any _).bind fun shown _ =>
    yields_pure (rowData_ne_null plan shown)

theorem yields_fetchCount (runner : Runner σ) (fragment : Fragment) :
    Yields (fun count => isInt64 count = true) (runner.fetchCount fragment) :=
  (yields_any _).bind fun _ _ => yields_ofExcept fun _ => isInt64_of_readCount

theorem yields_countAll (runner : Runner σ) (plan : Plan) :
    Yields (fun count => ∀ n, count = some n → isInt64 n = true) (runner.countAll plan) := by
  rw [countAll]
  split
  · rename_i fragment _
    rw [map_eq_pure_bind]
    refine (yields_fetchCount runner fragment).bind fun count within => yields_pure ?_
    rintro n ⟨⟩
    exact within
  · exact yields_pure (by simp)

theorem yields_selectedData (runner : Runner σ) (plan : Plan) :
    Yields (fun data => data ≠ some Json.null) (runner.selectedData plan) := by
  rw [selectedData]
  split
  · exact (yields_any _).bind fun rows _ => yields_shape runner plan rows
  · exact yields_pure (by simp)

theorem yields_runSelect (runner : Runner σ) (plan : Plan) :
    Yields Response.Regular (runner.runSelect plan) := by
  rw [runSelect_eq_bind]
  refine (yields_selectedData runner plan).bind fun data present => ?_
  exact (yields_countAll runner plan).bind fun count within => yields_pure ⟨present, within⟩

theorem yields_runWrite (runner : Runner σ) (plan : Plan) :
    Yields Response.Regular (runner.runWrite plan) := by
  rw [runWrite_eq_bind]
  refine (yields_any _).bind fun _ _ => (yields_any _).bind fun rows _ => ?_
  exact (yields_shape runner plan rows).bind fun data present => yields_pure ⟨present, nofun⟩

/-- Every response of a run is regular, whatever the plan and the client. -/
theorem regular_run (runner : Runner σ) (plan : Plan) (session : Session σ) :
    (runner.run plan session).1.Regular := by
  rw [run_eq_bind, InSession.bind_eq]
  have yields : Yields Response.Regular
      (if plan.operation.isWrite then runner.runWrite plan else runner.runSelect plan) := by
    split
    · exact yields_runWrite runner plan
    · exact yields_runSelect runner plan
  cases outcome : ((if plan.operation.isWrite then runner.runWrite plan
    else runner.runSelect plan).run session).1 with
  | ok response => exact yields session response outcome
  | error error => exact Response.regular_fail error

/-- So is the response to a chain, with or without a plan. -/
theorem regular_runChain (runner : Runner σ) (chain : Chain) (session : Session σ) :
    (runner.runChain chain session).1.Regular := by
  rw [runChain]
  cases chain.plan with
  | ok plan => exact regular_run runner plan session
  | error error => exact Response.regular_fail error

end Runner

/-- The main result: a response that was read from a JSON value, in whatever form, is read back from
its own JSON value as it was, and so is every response of a run. -/
theorem Response.read_back :
    (∀ json response, decode json = .ok response → decode response.json = .ok response) ∧
      ∀ {σ : Type} (runner : Runner σ) (session : Session σ),
        (∀ plan, decode (runner.run plan session).1.json = .ok (runner.run plan session).1) ∧
        ∀ chain, decode (runner.runChain chain session).1.json =
          .ok (runner.runChain chain session).1 := by
  refine ⟨fun json response read => (regular_of_decode read).decode_json, ?_⟩
  intro σ runner session
  exact ⟨fun plan => (runner.regular_run plan session).decode_json,
    fun chain => (runner.regular_runChain chain session).decode_json⟩

namespace Parcels

/-- A response as an array that ends before the count. Its failure is an object in another order, with
a state code of null and a field of a stranger. -/
def lost : Json :=
  .array [.array [.null, .object [("data", .null)]],
    .object [("message", .string "No parcel"), ("hint", .array []), ("sqlstate", .null),
      ("code", .string "no-rows")]]

def lostResponse : Response :=
  ⟨some (.array [.null, .object [("data", .null)]]), some ⟨.noRows, "No parcel", none⟩, none⟩

/-- A response as an object in another order, with a field of a stranger and without data. -/
def tally : Json := .object [("count", .int 7), ("took", .bool true), ("error", .null)]

def tallyResponse : Response := ⟨none, none, some 7⟩

theorem lost_and_tally_read_back :
    (Response.decode lost = .ok lostResponse ∧
      Response.decode lostResponse.json = .ok lostResponse) ∧
    (Response.decode tally = .ok tallyResponse ∧
      Response.decode tallyResponse.json = .ok tallyResponse) :=
  ⟨⟨rfl, Response.read_back.1 lost lostResponse rfl⟩,
    ⟨rfl, Response.read_back.1 tally tallyResponse rfl⟩⟩

end Parcels

end FluentSql
