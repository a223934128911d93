import FluentSql.Proofs.Chain.Origin

/-!
# Forms

A draft stops at the first error. A form goes on: it takes every call, keeps the operation, the
payload and the first error in places of their own, and looks at the error at the end. What a form
would have to be refused for then, a write without its payload, never comes up.

Results:
1. `Form.failure_foldl`: the first error stays.
2. `Form.tracks_ofChain`, `Form.Tracks.plan`: forms and drafts come to the same plans.
3. `Form.deferred_or_consistent`: the first error is the error of the chain; without one a form holds
   the one write of its calls, and the payload of that write.
-/

namespace FluentSql

/-- What the calls of a chain have said so far, and the first error among them. -/
structure Form where
  table : String
  operation : Option Operation
  columns : Option String
  extras : SelectExtras
  filters : List Filter
  order : List OrderKey
  limit : Option Nat
  range : Option (Nat × Nat)
  demand : RowDemand
  payload : Option Payload
  conflictTarget : Option String
  failure : Option Error

namespace Form

/-- A form before the first call. -/
def blank (table : String) : Form :=
  { table, operation := none, columns := none, extras := .default, filters := [], order := [],
    limit := none, range := none, demand := .many, payload := none, conflictTarget := none,
    failure := none }

/-- Enters an error, unless there is one. -/
def fail (form : Form) (error : Error) : Form :=
  { form with failure := form.failure.or (some error) }

/-- Why a form cannot take a write. -/
def writeFault? (form : Form) (operation : Operation) : Option Misuse :=
  form.operation.map fun existing =>
    if existing = .select then .writeAfterSelect operation else .secondWrite operation existing

/-- Takes a write with its payload. The operation is entered even if the payload is refused. -/
def write (form : Form) (operation : Operation) (input : Input) : Form :=
  match form.writeFault? operation with
  | some misuse => form.fail (.misuse misuse)
  | none =>
    match Payload.ofInput input with
    | .ok payload => { form with operation := some operation, payload := some payload }
    | .error error => { form with operation := some operation }.fail error

/-- Looks at the payload that the form holds, whichever write it came with. -/
def checkOneRow (form : Form) : Form :=
  match form.payload with
  | some ⟨.array, _⟩ => form.fail (.validation .updateOfSeveral)
  | _ => form

/-- Takes a select. -/
def select (form : Form) (columns : String) (options : SelectExtras) : Form :=
  let form :=
    match form.operation with
    | none | some .select => { form with operation := some .select, extras := options }
    | some _ =>
      if options = SelectExtras.default then form else form.fail (.misuse .optionsOnWrite)
  { form with columns := some columns }

/-- What is wrong with a range of rows. -/
def rangeFault? (first last : Nat) : Option RequestFault :=
  if last < first then some (.rangeReversed first last)
  else if maxRowBound ≤ last then some (.rangeTooLarge first last)
  else none

/-- Enters what is wrong with the arguments of a call, if something is. -/
def check (form : Form) (fault? : Option RequestFault) : Form :=
  fault?.elim form fun fault => form.fail (.validation fault)

/-- Takes a call. -/
def take (form : Form) : Call → Form
  | .select columns options => form.select columns options
  | .insert input => form.write .insert input
  | .update input => (form.write .update input).checkOneRow
  | .upsert input => form.write .upsert input
  | .delete =>
    match form.writeFault? .delete with
    | some misuse => form.fail (.misuse misuse)
    | none => { form with operation := some .delete }
  | .onConflict columns => { form with conflictTarget := some columns }
  | .filter filter => { form with filters := form.filters ++ [filter] }
  | .matching pairs =>
    { form with
      filters := form.filters ++ pairs.map fun (column, value) => .compare .eq column value }
  | .order key => { form with order := form.order ++ [key] }
  | .limit count =>
    { form.check (if maxRowBound < count then some (.limitTooLarge count) else none) with
      limit := some count }
  | .range first last =>
    { form.check (rangeFault? first last) with range := some (first, last) }
  | .one => { form with demand := .one }
  | .atMostOne => { form with demand := .atMostOne }

/-- The form of a chain. -/
def ofChain (chain : Chain) : Form := chain.calls.foldl take (blank chain.table)

/-- What the form asks for. A write may lack its payload, and the payload of an update its row. -/
def action (form : Form) : Except Error Action :=
  match form.operation, form.payload with
  | none, _ => .ok .undecided
  | some .select, _ => .ok (.select form.extras)
  | some .delete, _ => .ok .delete
  | some .insert, some payload => .ok (.insert payload)
  | some .upsert, some payload => .ok (.upsert payload)
  | some .update, some payload => .ok (.update (payload.rows.head?.getD []))
  | some .update, none => .error (.validation (.reported "update payload missing"))
  | some _, none => .error (.validation (.reported "insert payload missing"))

/-- The draft that says the same. -/
def draft (form : Form) (action : Action) : Draft :=
  { table := form.table, action, columns := form.columns, filters := form.filters,
    order := form.order, limit := form.limit, range := form.range, demand := form.demand,
    conflictTarget := form.conflictTarget }

/-- The plan of a form. Names, the select list and the filters are looked at before the payload. -/
def plan (form : Form) : Except Error Plan :=
  match form.failure with
  | some error => .error error
  | none => do
    let table ← Identifier.ofName form.table
    let selection ← Selection.parse (form.columns.getD "*")
    let condition ← (Filter.whereClause table.name form.filters).result
    let draft := form.draft (← form.action)
    let statement ← draft.statement table selection condition
    .ok
      { table
        operation := form.operation.getD .select
        selection
        statement
        countStatement := draft.countStatement table condition
        demand := form.demand
        input := Draft.payloadForm draft.action
        hasFilters := !form.filters.isEmpty }

/-! ## The first error stays -/

/-- Work on a form that may enter an error, but takes none away. -/
def Defers (form next : Form) : Prop := ∃ later, next.failure = form.failure.or later

variable {form next : Form}

theorem defers_of_eq (same : next.failure = form.failure) : Defers form next :=
  ⟨none, same.trans (Option.or_none).symm⟩

theorem defers_fail (form : Form) (error : Error) : Defers form (form.fail error) := ⟨some error, rfl⟩

theorem defers_write (form : Form) (operation : Operation) (input : Input) :
    Defers form (form.write operation input) := by
  rw [write]
  split
  · exact defers_fail form _
  · split
    · exact defers_of_eq rfl
    · exact ⟨some _, rfl⟩

theorem Defers.checkOneRow (defers : Defers form next) : Defers form next.checkOneRow := by
  obtain ⟨later, failure⟩ := defers
  rw [Form.checkOneRow]
  split
  · refine ⟨later.or (some (.validation .updateOfSeveral)), ?_⟩
    rw [fail, failure, Option.or_assoc]
  · exact ⟨later, failure⟩

theorem defers_check (form : Form) (fault? : Option RequestFault) : Defers form (form.check fault?) := by
  cases fault? with
  | none => exact defers_of_eq rfl
  | some fault => exact defers_fail form _

theorem defers_select (form : Form) (columns : String) (options : SelectExtras) :
    Defers form (form.select columns options) := by
  rw [select]
  split
  · exact defers_of_eq rfl
  · exact defers_of_eq rfl
  · split
    · exact defers_of_eq rfl
    · exact ⟨some _, rfl⟩

theorem defers_take (form : Form) (call : Call) : Defers form (form.take call) := by
  cases call with
  | select columns options => exact defers_select form columns options
  | insert input | upsert input => exact defers_write form _ input
  | update input => exact (defers_write form .update input).checkOneRow
  | delete =>
    rw [take]
    split
    · exact defers_fail form _
    · exact defers_of_eq rfl
  | limit count =>
    exact defers_check form (if maxRowBound < count then some (.limitTooLarge count) else none)
  | range first last => exact defers_check form (rangeFault? first last)
  | onConflict | filter | matching | order | one | atMostOne => exact defers_of_eq rfl

/-- The run lemma: whatever calls follow, the first error stays. -/
theorem failure_foldl {error : Error} (failed : form.failure = some error) (calls : List Call) :
    (calls.foldl take form).failure = some error := by
  induction calls generalizing form with
  | nil => exact failed
  | cons call rest ih =>
    obtain ⟨later, same⟩ := defers_take form call
    refine ih ?_
    rw [same, failed, Option.some_or]

end Form

/-! ## Forms and drafts -/

/-- What a caller hands over is one object, or an array of rows. -/
theorem Payload.cases_of_ofInput {input : Input} {payload : Payload}
    (read : ofInput input = .ok payload) :
    (∃ row, payload = ⟨.object, [row]⟩) ∨ ∃ rows, payload = ⟨.array, rows⟩ := by
  cases input with
  | error reason => cases read
  | ok value =>
    rw [ofInput] at read
    cases value with
    | object row =>
      cases read
      exact .inl ⟨row, rfl⟩
    | array items =>
      obtain ⟨rows, -, rfl⟩ := map_eq_ok_iff.mp read
      exact .inr ⟨rows, rfl⟩
    | _ => cases read

/-- The operation that an action has decided on. -/
def Action.decided? : Action → Option Operation
  | .undecided => none
  | action => some action.operation

/-- The rows that come with an action. -/
def Action.payload? : Action → Option Payload
  | .insert payload | .upsert payload => some payload
  | .update row => some ⟨.object, [row]⟩
  | _ => none

/-- The options of an action that selects. -/
def Action.extras : Action → SelectExtras
  | .select options => options
  | _ => .default

namespace Form

/-- The form that says what a draft says. -/
def ofDraft (draft : Draft) : Form :=
  { table := draft.table, operation := draft.action.decided?, columns := draft.columns,
    extras := draft.action.extras, filters := draft.filters, order := draft.order,
    limit := draft.limit, range := draft.range, demand := draft.demand,
    payload := draft.action.payload?, conflictTarget := draft.conflictTarget, failure := none }

/-- A form says what a draft says, or has its error. -/
inductive Tracks : Except Error Draft → Form → Prop
  | ok (draft : Draft) : Tracks (.ok draft) (ofDraft draft)
  | error {error : Error} {form : Form} (failed : form.failure = some error) :
      Tracks (.error error) form

variable {form : Form}

theorem write_of_ok {operation : Operation} {input : Input} {payload : Payload}
    (free : form.operation = none) (read : Payload.ofInput input = .ok payload) :
    form.write operation input =
      { form with operation := some operation, payload := some payload } := by
  rw [write, writeFault?, free, Option.map_none]
  simp only [read]

theorem write_of_error {operation : Operation} {input : Input} {error : Error}
    (free : form.operation = none) (read : Payload.ofInput input = .error error) :
    form.write operation input = { form with operation := some operation }.fail error := by
  rw [write, writeFault?, free, Option.map_none]
  simp only [read]

/-- A write that follows another operation is refused, whatever its payload. -/
theorem write_of_fault {operation : Operation} {misuse : Misuse} (input : Input)
    (fault : form.writeFault? operation = some misuse) :
    form.write operation input = form.fail (.misuse misuse) := by
  rw [write, fault]

/-- An update that follows another operation finds no error that comes before its own. -/
theorem tracks_update_of_fault {misuse : Misuse} (input : Input)
    (clean : form.failure = none) (fault : form.writeFault? .update = some misuse) :
    Tracks (.error (.misuse misuse)) (form.take (.update input)) := by
  rw [take, write_of_fault input fault]
  have defers : Defers (form.fail (.misuse misuse)) (form.fail (.misuse misuse)).checkOneRow :=
    (defers_of_eq rfl).checkOneRow
  obtain ⟨later, failure⟩ := defers
  refine .error ?_
  rw [failure, fail, clean]
  rfl

/-- A select finds in a form what it finds in a draft that says the same. -/
theorem tracks_select (draft : Draft) (columns : String) (options : SelectExtras) :
    Tracks (draft.select columns options) ((ofDraft draft).select columns options) := by
  rcases draft with ⟨table, action, _, filters, order, limit, range, demand, target⟩
  cases action with
  | undecided | select => exact .ok _
  | insert | upsert | update | delete =>
    rw [Draft.select, select]
    dsimp only [ofDraft, Action.decided?, Action.operation]
    split
    · exact .ok _
    · exact .error rfl

/-- So does an update. -/
theorem tracks_update (draft : Draft) (input : Input) :
    Tracks (draft.write .update (Draft.updateAction input)) ((ofDraft draft).take (.update input)) := by
  rcases draft with ⟨table, action, columns, filters, order, limit, range, demand, target⟩
  cases action with
  | undecided =>
    rw [Draft.write, Draft.updateAction, take]
    cases read : Payload.ofInput input with
    | ok payload =>
      rw [write_of_ok rfl read, checkOneRow]
      rcases Payload.cases_of_ofInput read with ⟨row, rfl⟩ | ⟨rows, rfl⟩
      · exact .ok _
      · exact .error rfl
    | error error =>
      rw [write_of_error rfl read]
      exact .error rfl
  | select | insert | upsert | update | delete => exact tracks_update_of_fault input rfl rfl

/-- A call finds in a form what it finds in a draft that says the same. -/
theorem tracks_call (draft : Draft) (call : Call) :
    Tracks (draft.call call) ((ofDraft draft).take call) := by
  cases call with
  | select columns options => exact tracks_select draft columns options
  | update input => exact tracks_update draft input
  | insert input | upsert input =>
    rcases draft with ⟨table, action, columns, filters, order, limit, range, demand, target⟩
    cases action with
    | undecided =>
      rw [Draft.call, Draft.write, take]
      cases read : Payload.ofInput input with
      | ok payload =>
        rw [write_of_ok rfl read]
        exact .ok _
      | error error =>
        rw [write_of_error rfl read]
        exact .error rfl
    | select | insert | upsert | update | delete => exact .error rfl
  | delete =>
    rcases draft with ⟨table, action, columns, filters, order, limit, range, demand, target⟩
    cases action with
    | undecided => exact .ok _
    | select | insert | upsert | update | delete => exact .error rfl
  | limit count =>
    rw [Draft.call, Draft.setLimit, take]
    split
    · exact .error rfl
    · exact .ok _
  | range first last =>
    rw [Draft.call, Draft.setRange, take, rangeFault?]
    split
    · exact .error rfl
    · split
      · exact .error rfl
      · exact .ok _
  | onConflict | filter | matching | order | one | atMostOne => exact .ok _

/-- The run lemma. -/
theorem tracks_foldl {outcome : Except Error Draft} (tracks : Tracks outcome form) (calls : List Call) :
    Tracks (outcome >>= fun draft => calls.foldlM Draft.call draft) (calls.foldl take form) := by
  induction calls generalizing outcome form with
  | nil => cases outcome <;> exact tracks
  | cons call rest ih =>
    cases tracks with
    | error failed => exact .error (failure_foldl failed _)
    | ok draft =>
      rw [ok_bind, List.foldlM_cons, List.foldl_cons]
      exact ih (tracks_call draft call)

theorem tracks_ofChain (chain : Chain) : Tracks (Draft.ofChain chain) (ofChain chain) :=
  tracks_foldl (.ok (Draft.new chain.table)) chain.calls

theorem plan_ofDraft (draft : Draft) : (ofDraft draft).plan = draft.plan := by
  rcases draft with ⟨table, action, columns, filters, order, limit, range, demand, target⟩
  cases action <;> rfl

theorem Tracks.of_clean {outcome : Except Error Draft} (tracks : Tracks outcome form)
    (clean : form.failure = none) : ∃ draft, outcome = .ok draft ∧ form = ofDraft draft := by
  cases tracks with
  | ok draft => exact ⟨draft, rfl, rfl⟩
  | error failed =>
    rw [clean] at failed
    cases failed

theorem Tracks.plan {outcome : Except Error Draft} (tracks : Tracks outcome form) :
    form.plan = outcome >>= Draft.plan := by
  cases tracks with
  | ok draft => exact plan_ofDraft draft
  | error failed => rw [Form.plan, failed, error_bind]

end Form

/-! ## What a form without an error holds -/

/-- What a call hands over to be written. -/
def Call.input? : Call → Option Input
  | .insert input | .upsert input | .update input => some input
  | _ => none

theorem Call.input_of_unwritten {call : Call} (unwritten : call.write? = none) : call.input? = none := by
  cases call <;> first | rfl | cases unwritten

/-- The payload of a write that was accepted is what the call handed over. -/
theorem Call.payload_of_write {call : Call} {operation : Operation} {action : Action}
    (writes : call.write? = some (operation, .ok action)) :
    action.payload? = call.input?.bind fun input => (Payload.ofInput input).toOption := by
  cases call with
  | insert input | upsert input =>
    obtain ⟨-, read⟩ := Prod.mk.inj (Option.some.inj writes)
    obtain ⟨payload, handed, rfl⟩ := map_eq_ok_iff.mp read
    rw [input?, Option.bind_some, handed]
    rfl
  | update input =>
    obtain ⟨-, read⟩ := Prod.mk.inj (Option.some.inj writes)
    obtain ⟨payload, handed, rest⟩ := bind_eq_ok_iff.mp read
    rcases Payload.cases_of_ofInput handed with ⟨row, rfl⟩ | ⟨rows, rfl⟩
    · cases rest
      rw [input?, Option.bind_some, handed]
      rfl
    · cases rest
  | delete =>
    cases writes
    rfl
  | _ => cases writes

namespace Action

variable {calls : List Call} {action : Action}

/-- An action holds rows just when its operation takes some. -/
theorem payload_isSome_iff (action : Action) :
    action.payload?.isSome ↔ action.decided? = some .insert ∨ action.decided? = some .update ∨
      action.decided? = some .upsert := by
  cases action <;> simp [payload?, decided?, operation]

theorem payload_of_update {action : Action} (updates : action.decided? = some .update) :
    ∃ row, action.payload? = some ⟨.object, [row]⟩ := by
  cases action with
  | update row => exact ⟨row, rfl⟩
  | _ => cases updates

theorem decided_getD (action : Action) : action.decided?.getD .select = action.operation := by
  cases action <;> rfl

/-- Either no call writes, or one does. -/
theorem Originates.unwritten_or_written (originates : Originates calls action) :
    (∀ call ∈ calls, call.write? = none) ∧ action.operation = .select ∧ action.payload? = none ∨
      ∃ before call after, calls = before ++ call :: after ∧
        call.write? = some (action.operation, .ok action) ∧
        (∀ earlier ∈ before, earlier.write? = none ∧ earlier.extras? = none) ∧
        ∀ later ∈ after, later.write? = none := by
  cases originates with
  | undecided silent => exact .inl ⟨fun call present => (silent call present).1, rfl, rfl⟩
  | select unwritten => exact .inl ⟨unwritten, rfl, rfl⟩
  | @write before after call _ _ split writes silent plain =>
    obtain ⟨rfl, -⟩ := Call.operation_of_write writes
    exact .inr ⟨before, call, after, split, writes, silent, fun later present => (plain later present).1⟩

/-- The action of a chain is that of any call that writes. -/
theorem Originates.action_of_mem (originates : Originates calls action) {call : Call} (listed : call ∈ calls)
    {operation : Operation} {outcome : Except Error Action}
    (writes : call.write? = some (operation, outcome)) : outcome = .ok action := by
  rcases originates.unwritten_or_written with
    ⟨unwritten, -⟩ | ⟨before, only, after, rfl, written, silent, plain⟩
  · rw [unwritten call listed] at writes
    cases writes
  · rcases List.mem_append.mp listed with earlier | listed
    · rw [(silent call earlier).1] at writes
      cases writes
    · rcases List.mem_cons.mp listed with rfl | later
      · rw [written] at writes
        cases writes
        rfl
      · rw [plain call later] at writes
        cases writes

/-- A write comes after no other write and after no select. -/
theorem Originates.writeFirst (originates : Originates calls action) :
    calls.Pairwise fun earlier later =>
      later.write?.isSome → earlier.write? = none ∧ earlier.extras? = none := by
  rcases originates.unwritten_or_written with ⟨unwritten, -⟩ | ⟨before, call, after, rfl, -, silent, plain⟩
  · refine List.pairwise_of_forall_mem_list fun _ _ later present writes => ?_
    rw [unwritten later present] at writes
    cases writes
  · refine List.pairwise_append.mpr ⟨?_, List.pairwise_cons.mpr ⟨?_, ?_⟩, ?_⟩
    · exact List.pairwise_of_forall_mem_list fun earlier present _ _ _ => silent earlier present
    · intro later present writes
      rw [plain later present] at writes
      cases writes
    · refine List.pairwise_of_forall_mem_list fun _ _ later present writes => ?_
      rw [plain later present] at writes
      cases writes
    · exact fun earlier present _ _ _ => silent earlier present

/-- The operation is that of the one write. -/
theorem Originates.operation_eq (originates : Originates calls action) :
    ((calls.findSome? Call.write?).map Prod.fst).getD .select = action.operation := by
  rcases originates.unwritten_or_written with
    ⟨unwritten, reads, -⟩ | ⟨before, call, after, rfl, writes, silent, -⟩
  · rw [List.findSome?_eq_none_iff.mpr unwritten, reads]
    rfl
  · have earlier : before.findSome? Call.write? = none :=
      List.findSome?_eq_none_iff.mpr fun call present => (silent call present).1
    rw [List.findSome?_append, earlier, Option.none_or, List.findSome?_cons, writes]
    rfl

/-- The payload is what the one write handed over. -/
theorem Originates.payload_eq (originates : Originates calls action) :
    action.payload? =
      (calls.findSome? Call.input?).bind fun input => (Payload.ofInput input).toOption := by
  have none_of_unwritten : ∀ {list : List Call}, (∀ call ∈ list, call.write? = none) →
      list.findSome? Call.input? = none := fun unwritten =>
    List.findSome?_eq_none_iff.mpr fun call present => Call.input_of_unwritten (unwritten call present)
  rcases originates.unwritten_or_written with
    ⟨unwritten, -, unpaid⟩ | ⟨before, call, after, rfl, writes, silent, plain⟩
  · rw [none_of_unwritten unwritten, unpaid]
    rfl
  · have earlier := none_of_unwritten fun call present => (silent call present).1
    rw [Call.payload_of_write writes, List.findSome?_append, earlier, Option.none_or]
    cases handed : call.input? with
    | some input => rw [List.findSome?_cons, handed]
    | none => rw [List.findSome?_cons, handed, none_of_unwritten plain]

end Action

namespace Form

/-- A form agrees with the calls that it took: they have at most one write and no select before it,
and the form holds that write, with the payload that came with it. -/
structure Consistent (form : Form) (calls : List Call) : Prop where
  writeFirst : calls.Pairwise fun earlier later =>
    later.write?.isSome → earlier.write? = none ∧ earlier.extras? = none
  operation : form.operation.getD .select = ((calls.findSome? Call.write?).map Prod.fst).getD .select
  payload : form.payload =
    (calls.findSome? Call.input?).bind fun input => (Payload.ofInput input).toOption
  payloadHeld : form.payload.isSome ↔
    form.operation = some .insert ∨ form.operation = some .update ∨ form.operation = some .upsert
  oneRow : form.operation = some .update → ∃ row, form.payload = some ⟨.object, [row]⟩
  complete : ∃ action, form.action = .ok action

/-- A form never lacks what a draft has. -/
theorem action_ofDraft (draft : Draft) : (ofDraft draft).action = .ok draft.action := by
  rcases draft with ⟨table, action, columns, filters, order, limit, range, demand, target⟩
  cases action <;> rfl

theorem consistent_ofDraft {draft : Draft} {calls : List Call}
    (originates : Action.Originates calls draft.action) : (ofDraft draft).Consistent calls where
  writeFirst := originates.writeFirst
  operation := by
    rw [originates.operation_eq]
    exact draft.action.decided_getD
  payload := originates.payload_eq
  payloadHeld := draft.action.payload_isSome_iff
  oneRow := draft.action.payload_of_update
  complete := ⟨draft.action, action_ofDraft draft⟩

/-- The first error is the error of the chain, whatever calls follow. Without one the form agrees
with the calls, and lacks nothing that its operation needs. -/
theorem deferred_or_consistent (chain : Chain) :
    (ofChain chain).plan = chain.plan ∧
      (∀ before after error, chain.calls = before ++ after →
        (ofChain ⟨chain.table, before⟩).failure = some error →
        (ofChain chain).failure = some error ∧ chain.plan = .error error) ∧
      ((ofChain chain).failure = none → (ofChain chain).Consistent chain.calls) := by
  have tracks := tracks_ofChain chain
  refine ⟨tracks.plan, ?_, ?_⟩
  · intro before after error split failed
    have kept : (ofChain chain).failure = some error := by
      rw [ofChain, split, List.foldl_append]
      exact failure_foldl failed after
    refine ⟨kept, ?_⟩
    rw [Chain.plan, ← tracks.plan, plan, kept]
  · intro clean
    obtain ⟨draft, drafted, same⟩ := tracks.of_clean clean
    rw [same]
    exact consistent_ofDraft (Draft.originates drafted)

end Form

namespace Products

/-- Rows are inserted and then updated, which one chain cannot ask for. -/
def insertThenUpdate : Chain :=
  { table := "products"
    calls := [.insert (.ok (.array [])), .update (.ok (.object [("price", .null)])), .delete] }

/-- One row is updated, and its new price returned. -/
def reprice : Chain :=
  { table := "products"
    calls := [.update (.ok (.object [("price", .null)])), .select "price" .default] }

theorem deferred_and_consistent :
    insertThenUpdate.plan = .error (.misuse (.secondWrite .update .insert)) ∧
      (Form.ofChain reprice).Consistent reprice.calls := by
  constructor
  · have kept := (Form.deferred_or_consistent insertThenUpdate).2.1
    exact (kept (insertThenUpdate.calls.take 2) [.delete] _ rfl rfl).2
  · exact (Form.deferred_or_consistent reprice).2.2 rfl

end Products

end FluentSql
