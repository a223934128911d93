import FluentSql.Chain.Plan
import FluentSql.Proofs.Outcome

/-!
# The parts of a plan

What must have succeeded for a draft, and for a chain, to have a plan, and what the plan is then; which
clauses statements come from; and when a draft takes a write.
-/

namespace FluentSql

/-- A write goes only into a draft that says nothing yet. -/
theorem Draft.write_eq_ok {draft next : Draft} {operation : Operation} {action : Except Error Action}
    (written : draft.write operation action = .ok next) :
    draft.action = .undecided ∧ ∃ does, action = .ok does ∧ { draft with action := does } = next := by
  rw [write] at written
  split at written
  · rename_i undecided
    exact ⟨undecided, map_eq_ok_iff.mp written⟩
  · cases written
  · cases written

/-- The clauses that a statement can come from. -/
inductive StatementClause (table : Identifier) (selection : Selection) (condition : Fragment) :
    Clause → Prop
  | select (order : List OrderKey) (range : Option (Nat × Nat)) (limit : Option Nat) :
      StatementClause table selection condition
        (selectClause table selection condition order range limit)
  | insert (rows : List Row) (target : Option String) (returning : String) :
      StatementClause table selection condition (insertClause table rows target returning)
  | update (row : Row) (returning : String) :
      StatementClause table selection condition (updateClause table row condition returning)
  | delete (returning : String) :
      StatementClause table selection condition (deleteClause table condition returning)

namespace Draft

variable {draft : Draft} {table : Identifier} {selection : Selection} {condition fragment : Fragment}

theorem result_of_some {clause : Clause} (found : clause.result.map some = .ok (some fragment)) :
    clause.result = .ok fragment := by
  obtain ⟨_, done, same⟩ := map_eq_ok_iff.mp found
  cases same
  exact done

theorem result_of_insertStatement {payload : Payload} {target : Option String} {returning : String}
    (written : insertStatement table payload target returning = .ok (some fragment)) :
    (insertClause table payload.rows target returning).result = .ok fragment := by
  rw [insertStatement] at written
  split at written
  · cases written
  · exact result_of_some written

/-- A statement is what one of the clauses comes to. -/
theorem exists_statementClause
    (written : draft.statement table selection condition = .ok (some fragment)) :
    ∃ clause, StatementClause table selection condition clause ∧ clause.result = .ok fragment := by
  unfold Draft.statement at written
  cases does : draft.action with
  | undecided =>
    rw [does] at written
    exact ⟨_, .select _ _ _, result_of_some written⟩
  | select options =>
    rw [does] at written
    dsimp only at written
    split at written
    · cases written
    · exact ⟨_, .select _ _ _, result_of_some written⟩
  | insert payload | upsert payload =>
    rw [does] at written
    exact ⟨_, .insert _ _ _, result_of_insertStatement written⟩
  | update row =>
    rw [does] at written
    exact ⟨_, .update _ _, result_of_some written⟩
  | delete =>
    rw [does] at written
    exact ⟨_, .delete _, result_of_some written⟩

end Draft

theorem Draft.plan_eq_ok {draft : Draft} {plan : Plan} (planned : draft.plan = .ok plan) :
    ∃ table selection condition statement,
      Identifier.ofName draft.table = .ok table ∧
      Selection.parse (draft.columns.getD "*") = .ok selection ∧
      (Filter.whereClause table.name draft.filters).result = .ok condition ∧
      draft.statement table selection condition = .ok statement ∧
      plan =
        { table
          operation := draft.action.operation
          selection
          statement
          countStatement := draft.countStatement table condition
          demand := draft.demand
          input := payloadForm draft.action
          hasFilters := !draft.filters.isEmpty } := by
  obtain ⟨table, named, rest⟩ := bind_eq_ok_iff.mp planned
  obtain ⟨selection, parsed, rest⟩ := bind_eq_ok_iff.mp rest
  obtain ⟨condition, filtered, rest⟩ := bind_eq_ok_iff.mp rest
  obtain ⟨statement, written, rest⟩ := bind_eq_ok_iff.mp rest
  cases rest
  exact ⟨table, selection, condition, statement, named, parsed, filtered, written, rfl⟩

theorem Chain.plan_eq_ok {chain : Chain} {plan : Plan} (planned : chain.plan = .ok plan) :
    ∃ draft, Draft.ofChain chain = .ok draft ∧ draft.plan = .ok plan := bind_eq_ok_iff.mp planned

end FluentSql
