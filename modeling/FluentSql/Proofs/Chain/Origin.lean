import FluentSql.Proofs.Chain.Kind

/-!
# Where an action comes from

The action of a draft is what one of its calls asked for. A write stands before every select, and
there is at most one; without a write the last select decides.

Results:
1. `Draft.call_of_write`, `Draft.action_of_select`, `Draft.action_of_call`: what the three kinds of
   calls do to the action of a draft.
2. `Draft.originates`: the action of an accepted draft originates in the calls of its chain.
-/

namespace FluentSql

/-- The operation of a call that writes, and what it comes to. -/
def Call.write? : Call → Option (Operation × Except Error Action)
  | .insert input => some (.insert, (Payload.ofInput input).map .insert)
  | .upsert input => some (.upsert, (Payload.ofInput input).map .upsert)
  | .update input => some (.update, Draft.updateAction input)
  | .delete => some (.delete, .ok .delete)
  | _ => none

/-- The options of a call that selects. -/
def Call.extras? : Call → Option SelectExtras
  | .select _ options => some options
  | _ => none

/-- An action, and the calls that led to it. -/
inductive Action.Originates (calls : List Call) : Action → Prop
  | undecided (silent : ∀ call ∈ calls, call.write? = none ∧ call.extras? = none) :
      Originates calls .undecided
  | select {options : SelectExtras} (unwritten : ∀ call ∈ calls, call.write? = none)
      (last : (calls.filterMap Call.extras?).getLast? = some options) :
      Originates calls (.select options)
  | write {before after : List Call} {call : Call} {operation : Operation} {action : Action}
      (split : calls = before ++ call :: after) (writes : call.write? = some (operation, .ok action))
      (silent : ∀ earlier ∈ before, earlier.write? = none ∧ earlier.extras? = none)
      (plain : ∀ later ∈ after, later.write? = none ∧ ∀ options ∈ later.extras?, options = .default) :
      Originates calls action

/-! ## Single calls -/

/-- A write comes to an action of its own operation, which does not select. -/
theorem Call.operation_of_write {call : Call} {operation : Operation} {action : Action}
    (writes : call.write? = some (operation, .ok action)) :
    action.operation = operation ∧ operation ≠ .select := by
  cases call with
  | insert input | upsert input =>
    obtain ⟨rfl, read⟩ := Prod.mk.inj (Option.some.inj writes)
    obtain ⟨payload, -, rfl⟩ := map_eq_ok_iff.mp read
    exact ⟨rfl, nofun⟩
  | update input =>
    obtain ⟨rfl, read⟩ := Prod.mk.inj (Option.some.inj writes)
    obtain ⟨payload, -, rest⟩ := bind_eq_ok_iff.mp read
    split at rest <;> cases rest
    exact ⟨rfl, nofun⟩
  | delete =>
    cases writes
    exact ⟨rfl, nofun⟩
  | _ => cases writes

namespace Draft

variable {draft next : Draft} {call : Call}

theorem call_of_write {operation : Operation} {action : Except Error Action}
    (writes : call.write? = some (operation, action)) (draft : Draft) :
    draft.call call = draft.write operation action := by
  cases call <;> cases writes <;> rfl

theorem call_of_extras {options : SelectExtras} (selects : call.extras? = some options) :
    ∃ columns, ∀ draft : Draft, draft.call call = draft.select columns options := by
  cases call <;> cases selects
  exact ⟨_, fun _ => rfl⟩

/-- A select decides what is selected, or says what a write returns, and then has no options. -/
theorem action_of_select {columns : String} {options : SelectExtras}
    (selected : draft.select columns options = .ok next) :
    draft.action.operation = .select ∧ next.action = .select options ∨
      draft.action.operation ≠ .select ∧ next.action = draft.action ∧ options = .default := by
  rw [select] at selected
  cases action : draft.action with
  | undecided | select =>
    rw [action] at selected
    cases selected
    exact .inl ⟨rfl, rfl⟩
  | insert | upsert | update | delete =>
    rw [action] at selected
    dsimp only at selected
    split at selected
    · rename_i default
      cases selected
      refine .inr ⟨?_, rfl, default⟩
      rintro ⟨⟩
    · cases selected

/-- A call that neither writes nor selects leaves the action as it is. -/
theorem action_of_call (unwritten : call.write? = none) (unselected : call.extras? = none)
    (called : draft.call call = .ok next) : next.action = draft.action := by
  cases call with
  | select => cases unselected
  | insert | update | upsert | delete => cases unwritten
  | _ =>
    rw [eq_taking_of_call called]
    rfl

end Draft

/-! ## One more call -/

namespace Action.Originates

variable {calls : List Call} {action : Action} {call : Call}

/-- Where nothing is written, no call writes. -/
theorem unwritten (originates : Originates calls action) (reads : action.operation = .select) :
    ∀ call ∈ calls, call.write? = none := by
  cases originates with
  | undecided silent => exact fun call present => (silent call present).1
  | select unwritten => exact unwritten
  | write _ writes =>
    obtain ⟨rfl, other⟩ := Call.operation_of_write writes
    exact absurd reads other

theorem silent (originates : Originates calls .undecided) :
    ∀ call ∈ calls, call.write? = none ∧ call.extras? = none := by
  cases originates with
  | undecided silent => exact silent
  | write _ writes =>
    obtain ⟨rfl, other⟩ := Call.operation_of_write writes
    exact absurd rfl other

/-- After a write, a call that does not write and has no options. -/
theorem afterWrite (originates : Originates calls action) (written : action.operation ≠ .select)
    (unwritten : call.write? = none) (default : ∀ options ∈ call.extras?, options = .default) :
    Originates (calls ++ [call]) action := by
  cases originates with
  | undecided | select => exact absurd rfl written
  | @write before after first _ _ split writes silent plain =>
    have longer : calls ++ [call] = before ++ first :: (after ++ [call]) := by
      rw [split, List.append_assoc, List.cons_append]
    refine .write longer writes silent ?_
    exact List.forall_mem_append.mpr ⟨plain, List.forall_mem_singleton.mpr ⟨unwritten, default⟩⟩

/-- A select where nothing is written. -/
theorem selectLast {options : SelectExtras} (earlier : ∀ call ∈ calls, call.write? = none)
    (unwritten : call.write? = none) (selects : call.extras? = some options) :
    Originates (calls ++ [call]) (.select options) := by
  refine .select (List.forall_mem_append.mpr ⟨earlier, List.forall_mem_singleton.mpr unwritten⟩) ?_
  rw [List.filterMap_append, List.filterMap_cons_some selects, List.filterMap_nil,
    List.getLast?_concat]

/-- A call that neither writes nor selects. -/
theorem other (originates : Originates calls action) (unwritten : call.write? = none)
    (unselected : call.extras? = none) : Originates (calls ++ [call]) action := by
  cases originates with
  | undecided silent =>
    exact .undecided (List.forall_mem_append.mpr
      ⟨silent, List.forall_mem_singleton.mpr ⟨unwritten, unselected⟩⟩)
  | select earlier last =>
    refine .select (List.forall_mem_append.mpr ⟨earlier, List.forall_mem_singleton.mpr unwritten⟩) ?_
    rw [List.filterMap_append, List.filterMap_cons_none unselected, List.filterMap_nil,
      List.append_nil, last]
  | write split writes silent plain =>
    obtain ⟨rfl, written⟩ := Call.operation_of_write writes
    refine (Originates.write split writes silent plain).afterWrite written unwritten ?_
    rw [unselected]
    rintro _ ⟨⟩

end Action.Originates

namespace Draft

variable {draft next : Draft} {call : Call}

/-- The step lemma. -/
theorem originates_call {done : List Call} (originates : Action.Originates done draft.action)
    (called : draft.call call = .ok next) : Action.Originates (done ++ [call]) next.action := by
  cases writing : call.write? with
  | some written =>
    obtain ⟨operation, outcome⟩ := written
    rw [call_of_write writing] at called
    obtain ⟨undecided, action, rfl, rfl⟩ := write_eq_ok called
    rw [undecided] at originates
    exact .write rfl writing originates.silent (by simp)
  | none =>
    cases selecting : call.extras? with
    | none =>
      rw [action_of_call writing selecting called]
      exact originates.other writing selecting
    | some options =>
      obtain ⟨columns, selects⟩ := call_of_extras selecting
      rw [selects] at called
      rcases action_of_select called with ⟨reads, decided⟩ | ⟨written, same, default⟩
      · rw [decided]
        exact .selectLast (originates.unwritten reads) writing selecting
      · rw [same]
        refine originates.afterWrite written writing ?_
        rw [selecting]
        rintro _ ⟨⟩
        exact default

/-- The run lemma: the action of an accepted draft originates in the calls of its chain. -/
theorem originates {chain : Chain} (drafted : ofChain chain = .ok draft) :
    Action.Originates chain.calls draft.action := by
  have keeps : ∀ done now call next, Action.Originates done now.action → Draft.call now call = .ok next →
      Action.Originates (done ++ [call]) next.action :=
    fun _ _ _ _ earlier called => originates_call earlier called
  have start : Action.Originates [] (new chain.table).action := .undecided (by simp)
  exact foldlM_keeps keeps chain.calls [] (new chain.table) draft start drafted

end Draft

end FluentSql
