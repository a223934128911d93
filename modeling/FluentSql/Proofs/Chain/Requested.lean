import FluentSql.Proofs.Chain.Form

/-!
# What is requested

A chain requests a count, no rows, or that it be shown one written row by itself. This module says
where its plan keeps that: `Chain.plan_meets` holds of every chain that has a plan.
-/

namespace FluentSql

/-- The options of the last select of a chain. -/
def Chain.extras (chain : Chain) : SelectExtras :=
  ((chain.calls.filterMap Call.extras?).getLast?).getD .default

/-- One object is to be inserted. -/
def Call.InsertsObject (call : Call) : Prop :=
  ∃ row, call = .insert (.ok (.object row)) ∨ call = .upsert (.ok (.object row))

/-- An empty batch is to be inserted. -/
def Call.InsertsNothing (call : Call) : Prop :=
  call = .insert (.ok (.array [])) ∨ call = .upsert (.ok (.array []))

/-- A select that is to return no rows. -/
def Plan.isHead (plan : Plan) : Bool := plan.operation == .select && plan.statement.isNone

/-! ## Calls and actions -/

theorem Call.unselected_of_write {call : Call} (writes : call.write?.isSome) : call.extras? = none := by
  cases call <;> first | rfl | cases writes

theorem Call.InsertsObject.writes {call : Call} (inserts : call.InsertsObject) : call.write?.isSome := by
  obtain ⟨row, rfl | rfl⟩ := inserts <;> rfl

theorem Payload.object_iff {input : Input} {payload : Payload} (read : ofInput input = .ok payload) :
    payload.shape = .object ↔ ∃ row, input = .ok (.object row) := by
  constructor
  · intro object
    cases input with
    | error reason => cases read
    | ok value =>
      rw [ofInput] at read
      cases value with
      | object row => exact ⟨row, rfl⟩
      | array items =>
        obtain ⟨rows, -, rfl⟩ := map_eq_ok_iff.mp read
        cases object
      | _ => cases read
  · rintro ⟨row, rfl⟩
    cases read
    rfl

theorem Payload.rows_eq_nil_iff {input : Input} {payload : Payload}
    (read : ofInput input = .ok payload) : payload.rows = [] ↔ input = .ok (.array []) := by
  constructor
  · intro empty
    cases input with
    | error reason => cases read
    | ok value =>
      rw [ofInput] at read
      cases value with
      | object row =>
        cases read
        cases empty
      | array items =>
        obtain ⟨rows, all, rfl⟩ := map_eq_ok_iff.mp read
        obtain rfl : rows = [] := empty
        cases mapM_eq_ok_iff.mp all
        rfl
      | _ => cases read
  · rintro rfl
    cases read
    rfl

theorem Call.object_iff {call : Call} {operation : Operation} {action : Action}
    (writes : call.write? = some (operation, .ok action)) :
    Draft.payloadForm action = some .object ↔ call.InsertsObject := by
  cases call with
  | insert input | upsert input =>
    obtain ⟨-, read⟩ := Prod.mk.inj (Option.some.inj writes)
    obtain ⟨payload, handed, rfl⟩ := map_eq_ok_iff.mp read
    rw [Draft.payloadForm, Option.some_inj, Payload.object_iff handed, InsertsObject]
    simp
  | update input =>
    obtain ⟨-, read⟩ := Prod.mk.inj (Option.some.inj writes)
    obtain ⟨payload, -, rest⟩ := bind_eq_ok_iff.mp read
    split at rest <;> cases rest
    simp [Draft.payloadForm, InsertsObject]
  | delete =>
    cases writes
    simp [Draft.payloadForm, InsertsObject]
  | _ => cases writes

/-- An action that inserts rows comes from a call that hands them over. -/
theorem Call.inserts_of_write {call : Call} {operation : Operation} {action : Action}
    {payload : Payload} (writes : call.write? = some (operation, .ok action))
    (inserts : action = .insert payload ∨ action = .upsert payload) :
    ∃ input, (call = .insert input ∨ call = .upsert input) ∧
      Payload.ofInput input = .ok payload := by
  cases call with
  | insert input | upsert input =>
    obtain ⟨-, read⟩ := Prod.mk.inj (Option.some.inj writes)
    obtain ⟨given, handed, rfl⟩ := map_eq_ok_iff.mp read
    rcases inserts with inserted | inserted <;> cases inserted
    exact ⟨input, by simp, handed⟩
  | update input =>
    obtain ⟨-, read⟩ := Prod.mk.inj (Option.some.inj writes)
    obtain ⟨given, -, rest⟩ := bind_eq_ok_iff.mp read
    split at rest <;> cases rest
    rcases inserts with inserted | inserted <;> cases inserted
  | delete =>
    cases writes
    rcases inserts with inserted | inserted <;> cases inserted
  | _ => cases writes

namespace Action.Originates

variable {calls : List Call} {action : Action}

/-- The options of an action are those of the last select; after a write there are none. -/
theorem extras_eq (originates : Originates calls action) :
    ((calls.filterMap Call.extras?).getLast?).getD .default = action.extras := by
  cases originates with
  | undecided silent =>
    rw [List.filterMap_eq_nil_iff.mpr fun call present => (silent call present).2]
    rfl
  | select unwritten last =>
    rw [last]
    rfl
  | @write before after call _ _ split writes silent plain =>
    obtain ⟨rfl, written⟩ := Call.operation_of_write writes
    have unselected : call.extras? = none := Call.unselected_of_write (by rw [writes]; rfl)
    have none_before : before.filterMap Call.extras? = [] :=
      List.filterMap_eq_nil_iff.mpr fun call present => (silent call present).2
    have extras : action.extras = .default := by
      cases action with
      | select options => exact absurd rfl written
      | _ => rfl
    rw [split, List.filterMap_append, none_before, List.nil_append,
      List.filterMap_cons_none unselected, extras]
    cases last : (after.filterMap Call.extras?).getLast? with
    | none => rfl
    | some options =>
      obtain ⟨later, present, selects⟩ := List.mem_filterMap.mp (List.mem_of_getLast? last)
      exact (plain later present).2 options selects

/-- The rows of an action were given as one object just when one object is to be inserted. -/
theorem object_iff (originates : Originates calls action) :
    Draft.payloadForm action = some .object ↔ ∃ call ∈ calls, call.InsertsObject := by
  rcases originates.unwritten_or_written with
    ⟨unwritten, -, unpaid⟩ | ⟨before, call, after, rfl, writes, silent, plain⟩
  · constructor
    · intro object
      cases action with
      | insert | upsert => cases unpaid
      | _ => cases object
    · rintro ⟨call, present, inserts⟩
      have writes := inserts.writes
      rw [unwritten call present] at writes
      cases writes
  · rw [Call.object_iff writes]
    constructor
    · exact fun inserts => ⟨call, by simp, inserts⟩
    · rintro ⟨other, present, inserts⟩
      have other_writes := inserts.writes
      rcases List.mem_append.mp present with earlier | present
      · rw [(silent other earlier).1] at other_writes
        cases other_writes
      · rcases List.mem_cons.mp present with rfl | later
        · exact inserts
        · rw [plain other later] at other_writes
          cases other_writes

/-- The action is to insert no rows just when an empty batch is to be inserted. -/
theorem batch_iff (originates : Originates calls action) :
    (∃ payload, (action = .insert payload ∨ action = .upsert payload) ∧ payload.rows = []) ↔
      ∃ call ∈ calls, call.InsertsNothing := by
  constructor
  · rintro ⟨payload, inserts, empty⟩
    rcases originates.unwritten_or_written with
      ⟨-, -, unpaid⟩ | ⟨before, call, after, rfl, writes, -, -⟩
    · rcases inserts with rfl | rfl <;> cases unpaid
    · obtain ⟨input, inserted, read⟩ := Call.inserts_of_write writes inserts
      rw [(Payload.rows_eq_nil_iff read).mp empty] at inserted
      exact ⟨call, by simp, inserted⟩
  · rintro ⟨call, listed, rfl | rfl⟩
    · cases originates.action_of_mem listed rfl
      exact ⟨_, .inl rfl, rfl⟩
    · cases originates.action_of_mem listed rfl
      exact ⟨_, .inr rfl, rfl⟩

end Action.Originates

/-! ## Plans -/

/-- A plan keeps what its chain requests. -/
structure Plan.Meets (plan : Plan) (chain : Chain) : Prop where
  counts : plan.countStatement.isSome = chain.extras.exactCount
  head : plan.isHead = chain.extras.headOnly
  object : plan.input = some .object ↔ ∃ call ∈ chain.calls, call.InsertsObject
  uncounted : plan.operation.isWrite → plan.countStatement = none

/-- Only a select that is to return no rows lacks its statement, apart from empty batches. -/
theorem Draft.statement_isNone {draft : Draft} {table : Identifier} {selection : Selection}
    {condition : Fragment} {statement : Option Fragment}
    (written : draft.statement table selection condition = .ok statement)
    (reads : draft.action.operation = .select) :
    statement.isNone = draft.action.extras.headOnly := by
  rw [Draft.statement] at written
  cases action : draft.action with
  | undecided =>
    rw [action] at written
    obtain ⟨fragment, -, rfl⟩ := map_eq_ok_iff.mp written
    rfl
  | select options =>
    rw [action] at written
    dsimp only at written
    split at written
    · rename_i head
      cases written
      exact head.symm
    · rename_i rows
      obtain ⟨fragment, -, rfl⟩ := map_eq_ok_iff.mp written
      exact (Bool.eq_false_iff.mpr rows).symm
  | _ =>
    rw [action] at reads
    cases reads

/-- A statement is missing for a select that is to return no rows, and for an empty batch. -/
theorem Draft.statement_eq_none_iff {draft : Draft} {table : Identifier} {selection : Selection}
    {condition : Fragment} {statement : Option Fragment}
    (written : draft.statement table selection condition = .ok statement) :
    statement = none ↔ draft.action.extras.headOnly = true ∨
      ∃ payload, (draft.action = .insert payload ∨ draft.action = .upsert payload) ∧
        payload.rows = [] := by
  cases action : draft.action with
  | undecided | select options =>
    have head := Draft.statement_isNone written (by rw [action]; rfl)
    rw [action] at head
    rw [← Option.isNone_iff_eq_none, head]
    simp
  | insert payload | upsert payload =>
    rw [Draft.statement, action] at written
    dsimp only at written
    rw [insertStatement] at written
    split at written
    · rename_i empty
      cases written
      exact iff_of_true rfl (.inr ⟨payload, by simp, empty⟩)
    · rename_i rows nonempty
      obtain ⟨fragment, -, rfl⟩ := map_eq_ok_iff.mp written
      refine iff_of_false (Option.some_ne_none fragment) ?_
      rintro (head | ⟨given, inserts, empty⟩)
      · cases head
      · rcases inserts with inserted | inserted <;> cases inserted
        exact nonempty empty
  | update row | delete =>
    rw [Draft.statement, action] at written
    obtain ⟨fragment, -, rfl⟩ := map_eq_ok_iff.mp written
    exact iff_of_false (Option.some_ne_none fragment) (by simp [Action.extras, SelectExtras.default])

theorem Chain.plan_meets {chain : Chain} {plan : Plan} (planned : chain.plan = .ok plan) :
    plan.Meets chain := by
  obtain ⟨draft, drafted, planned⟩ := Chain.plan_eq_ok planned
  obtain ⟨table, selection, condition, statement, -, -, -, written, rfl⟩ :=
    Draft.plan_eq_ok planned
  have originates := Draft.originates drafted
  have extras : chain.extras = draft.action.extras := originates.extras_eq
  refine ⟨?_, ?_, originates.object_iff, ?_⟩
  · rw [extras, Draft.countStatement]
    cases draft.action with
    | select options => cases counted : options.exactCount <;> simp [Action.extras, counted]
    | _ => rfl
  · rw [extras, Plan.isHead]
    dsimp only
    by_cases reads : draft.action.operation = .select
    · rw [Draft.statement_isNone written reads, reads]
      rfl
    · rw [beq_false_of_ne reads, Bool.false_and]
      cases action : draft.action with
      | undecided | select =>
        rw [action] at reads
        exact absurd rfl reads
      | _ => rfl
  · intro writes
    rw [Draft.countStatement]
    cases action : draft.action with
    | select options =>
      dsimp only at writes
      rw [action] at writes
      cases writes
    | _ => rfl

end FluentSql
