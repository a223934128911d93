import FluentSql.Proofs.Chain.Alike
import FluentSql.Proofs.Chain.Kind
import FluentSql.Proofs.Chain.Requested
import FluentSql.Proofs.Condition.Operands
import FluentSql.Proofs.Distinct
import FluentSql.Proofs.Statement.Identifier
import FluentSql.Proofs.Statement.Values

/-!
# The values of a chain

Which values the calls of a chain were given, and that its statements bind just these, in order. The
values never decide what a statement says.

1. `Filter.binds_whereClause`: a `WHERE` clause binds the operands of its filters, in order.
2. `Draft.tells_ofChain`: a draft holds the operands and the cells of all its calls.
3. `Draft.binds_statement`: the statement binds the cells, and then the operands where it has a
   `WHERE` clause.
4. `Chain.Alike.plans`: alike chains fail with one error, or have plans with the same texts, each of
   which binds the values of its own chain.
-/

namespace FluentSql

/-! ## The values of calls -/

/-- The operands of a filter on a table. -/
def Filter.operands (table : String) : Filter → List Json
  | .compare _ _ value => [value]
  | .is _ _ => []
  | .among _ values => values
  | .any expression =>
    match Condition.parse table expression with
    | .ok condition => condition.operands
    | .error _ => []

/-- The operands that a call gives to a filter. -/
def Call.operands (table : String) : Call → List Json
  | .filter given => given.operands table
  | .matching pairs => pairs.map Prod.snd
  | _ => []

/-- The rows that are given to be written. -/
def inputRows : Input → List Row
  | .ok (.object row) => [row]
  | .ok (.array items) => items.filterMap Json.row?
  | _ => []

/-- The columns of rows: the keys of all rows, each where it first occurs. -/
def rowColumns (rows : List Row) : List String := firstOccurrences (rows.flatMap Row.keys)

/-- The cells of rows, row by row and column by column; what a row lacks is null. -/
def cells (rows : List Row) : List Json :=
  rows.flatMap fun row => (rowColumns rows).map fun column => (row.get? column).getD .null

theorem columnUnion_eq_rowColumns (rows : List Row) : columnUnion rows = rowColumns rows :=
  eraseDups_eq_firstOccurrences _

/-- The values that a call gives to be written. -/
def Call.cells : Call → List Json
  | .insert input | .upsert input => FluentSql.cells (inputRows input)
  | .update input => (inputRows input).flatMap (List.map Prod.snd)
  | _ => []

/-- The operation of a call that writes. -/
def Call.operation? : Call → Option Operation
  | .insert _ => some .insert
  | .upsert _ => some .upsert
  | .update _ => some .update
  | .delete => some .delete
  | _ => none

namespace Chain

/-- What a chain does: what its first call that writes says, and to select if there is none. -/
def operation (chain : Chain) : Operation :=
  (chain.calls.findSome? Call.operation?).getD .select

/-- The operands of all filters, in the order of the calls. -/
def operands (chain : Chain) : List Json := chain.calls.flatMap (Call.operands chain.table)

/-- The values that are to be written. -/
def cells (chain : Chain) : List Json := chain.calls.flatMap Call.cells

/-- What the statement of an operation is to bind. -/
def boundValues (chain : Chain) : Operation → List Json
  | .insert | .upsert => chain.cells
  | .update => chain.cells ++ chain.operands
  | .select | .delete => chain.operands

end Chain

/-! ## Filters -/

namespace Filter

open Clause

theorem binds_testClause (table column : String) (test : Test) :
    Binds (testClause table column test) test.operands := by
  rw [← test.params_suffix]
  exact (binds_qualified table column).after (binds_ofFragment test.suffix)

theorem binds_clause (table : String) (filter : Filter) :
    Binds (filter.clause table) (filter.operands table) := by
  cases filter with
  | compare comparison column value => exact binds_testClause table column _
  | is column value =>
    rw [clause]
    split
    · exact binds_testClause table column _
    · exact binds_fail _
  | among column values =>
    cases values with
    | nil =>
      rw [clause]
      split
      · exact binds_text _
      · exact binds_fail _
    | cons value rest => exact binds_testClause table column (.among (value :: rest))
  | any expression =>
    apply binds_ofExcept
    intro fragment read
    obtain ⟨condition, parsed, rfl⟩ := map_eq_ok_iff.mp read
    rw [operands, parsed]
    exact condition.params_fragment

theorem binds_whereClause (table : String) (filters : List Filter) :
    Binds (whereClause table filters) (filters.flatMap (operands table)) := by
  cases filters with
  | nil => exact binds_empty
  | cons filter rest =>
    exact (binds_text " WHERE ").after
      (binds_separated " AND " fun filter _ => binds_clause table filter)

end Filter

/-! ## Drafts -/

/-- The values that an action writes. -/
def Action.cells : Action → List Json
  | .insert payload | .upsert payload => FluentSql.cells payload.rows
  | .update row => row.map Prod.snd
  | _ => []

theorem Payload.rows_ofInput {input : Input} {payload : Payload}
    (read : Payload.ofInput input = .ok payload) : payload.rows = inputRows input := by
  cases input with
  | error reason => cases read
  | ok value =>
    cases value with
    | object row =>
      cases read
      rfl
    | array items =>
      obtain ⟨rows, all, rfl⟩ := map_eq_ok_iff.mp read
      have pairs := mapM_eq_ok_iff.mp all
      clear all read
      show rows = items.filterMap Json.row?
      induction pairs with
      | nil => rfl
      | @cons item row items rows first _ ih =>
        cases item <;> cases first
        rw [List.filterMap_cons, ← ih]
        rfl
    | _ => cases read

namespace Draft

/-- The draft holds the operands and the cells of calls on a table. -/
structure Tells (table : String) (calls : List Call) (draft : Draft) : Prop where
  onTable : draft.table = table
  operands : draft.filters.flatMap (Filter.operands table) = calls.flatMap (Call.operands table)
  cells : draft.action.cells = calls.flatMap Call.cells

variable {draft next : Draft} {table : String} {calls : List Call}

theorem updateAction_eq_ok {input : Input} {action : Action}
    (read : updateAction input = .ok action) :
    ∃ row, inputRows input = [row] ∧ action = .update row := by
  obtain ⟨payload, given, does⟩ := bind_eq_ok_iff.mp read
  split at does
  · rename_i row
    cases does
    exact ⟨row, (Payload.rows_ofInput given).symm, rfl⟩
  · cases does

theorem Tells.add (tells : Tells table calls draft) {call : Call} (same : next.table = draft.table)
    (operands : next.filters.flatMap (Filter.operands table) =
      draft.filters.flatMap (Filter.operands table) ++ call.operands table)
    (cells : next.action.cells = draft.action.cells ++ call.cells) :
    Tells table (calls ++ [call]) next := by
  refine ⟨same.trans tells.onTable, ?_, ?_⟩
  · rw [operands, tells.operands, List.flatMap_append, List.flatMap_singleton]
  · rw [cells, tells.cells, List.flatMap_append, List.flatMap_singleton]

/-- A call that gives no values. -/
theorem Tells.addNothing (tells : Tells table calls draft) {call : Call}
    (same : next.table = draft.table) (filters : next.filters = draft.filters)
    (action : next.action.cells = draft.action.cells) (operands : call.operands table = [])
    (cells : call.cells = []) : Tells table (calls ++ [call]) next := by
  apply tells.add same
  · rw [filters, operands, List.append_nil]
  · rw [action, cells, List.append_nil]

/-- A write, which gives no operands. -/
theorem Tells.addWrite (tells : Tells table calls draft) {call : Call} {operation : Operation}
    {action : Except Error Action} (written : draft.write operation action = .ok next)
    (operands : call.operands table = [])
    (cells : ∀ does, action = .ok does → does.cells = call.cells) :
    Tells table (calls ++ [call]) next := by
  obtain ⟨undecided, does, decided, rfl⟩ := write_eq_ok written
  refine tells.add rfl ?_ ?_
  · rw [operands, List.append_nil]
  · rw [undecided, cells does decided]
    rfl

theorem select_eq_ok {columns : String} {options : SelectExtras}
    (selected : draft.select columns options = .ok next) :
    next.table = draft.table ∧ next.filters = draft.filters ∧
      next.action.cells = draft.action.cells := by
  rw [select] at selected
  split at selected
  · rename_i undecided
    cases selected
    rw [undecided]
    exact ⟨rfl, rfl, rfl⟩
  · rename_i before
    cases selected
    rw [before]
    exact ⟨rfl, rfl, rfl⟩
  · split at selected
    · cases selected
      exact ⟨rfl, rfl, rfl⟩
    · cases selected

/-- The step lemma: a call adds its operands and its cells. -/
theorem tells_call (tells : Tells table calls draft) {call : Call}
    (called : draft.call call = .ok next) : Tells table (calls ++ [call]) next := by
  cases call with
  | select columns options =>
    obtain ⟨same, filters, action⟩ := select_eq_ok called
    exact tells.addNothing same filters action rfl rfl
  | insert input | upsert input =>
    refine tells.addWrite called rfl ?_
    intro does decided
    obtain ⟨payload, given, rfl⟩ := map_eq_ok_iff.mp decided
    exact congrArg FluentSql.cells (Payload.rows_ofInput given)
  | update input =>
    refine tells.addWrite called rfl ?_
    intro does decided
    obtain ⟨row, given, rfl⟩ := updateAction_eq_ok decided
    rw [Call.cells, given, List.flatMap_singleton]
    rfl
  | delete =>
    refine tells.addWrite called rfl ?_
    rintro _ ⟨⟩
    rfl
  | filter given =>
    cases called
    refine tells.add rfl ?_ ?_
    · rw [List.flatMap_append, List.flatMap_singleton]
      rfl
    · exact (List.append_nil _).symm
  | matching pairs =>
    cases called
    refine tells.add rfl ?_ ?_
    · rw [List.flatMap_append, List.flatMap_map]
      congr 1
      exact List.flatMap_pure_eq_map _ _
    · exact (List.append_nil _).symm
  | limit | range | onConflict | order | one | atMostOne =>
    rw [eq_taking_of_call called]
    exact tells.addNothing rfl rfl rfl rfl rfl

/-- The run lemma. -/
theorem tells_ofChain {chain : Chain} (drafted : Draft.ofChain chain = .ok draft) :
    Tells chain.table chain.calls draft := by
  have keeps : ∀ done now call next, Tells chain.table done now → Draft.call now call = .ok next →
      Tells chain.table (done ++ [call]) next := fun _ _ _ _ tells called => tells_call tells called
  exact foldlM_keeps keeps chain.calls [] (new chain.table) draft ⟨rfl, rfl, rfl⟩ drafted

end Draft

/-! ## Clauses -/

open Clause

theorem OrderKey.binds_clause (table : Identifier) (key : OrderKey) : Binds (key.clause table) [] := by
  refine ((binds_qualified table.name key.column).before (binds_text _)).before ?_
  split
  · exact binds_text _
  · exact binds_text _
  · exact binds_empty

theorem binds_orderClause (table : Identifier) (keys : List OrderKey) :
    Binds (orderClause table keys) [] := by
  cases keys with
  | nil => exact binds_empty
  | cons key rest =>
    exact (binds_text " ORDER BY ").after
      (binds_separated_nil ", " fun key _ => key.binds_clause table)

theorem binds_pageClause (range : Option (Nat × Nat)) (limit : Option Nat) :
    Binds (pageClause range limit) [] := by
  unfold pageClause
  split
  · exact binds_text _
  · exact binds_text _
  · exact binds_empty

theorem binds_selectClause (table : Identifier) (selection : Selection) (condition : Fragment)
    (order : List OrderKey) (range : Option (Nat × Nat)) (limit : Option Nat) :
    Binds (selectClause table selection condition order range limit) (Fragment.params condition) :=
  (((binds_text _).after (binds_ofFragment condition)).before (binds_orderClause table order)).before
    (binds_pageClause range limit)

theorem binds_deleteClause (table : Identifier) (condition : Fragment) (returning : String) :
    Binds (deleteClause table condition returning) (Fragment.params condition) :=
  ((binds_text _).after (binds_ofFragment condition)).before (binds_text _)

/-- The condition is given as it was written before, and its operands follow the values. -/
theorem binds_updateClause (table : Identifier) (row : Row) (condition : Fragment)
    (returning : String) :
    Binds (updateClause table row condition returning)
      (row.map Prod.snd ++ Fragment.params condition) := by
  cases row with
  | nil => exact binds_fail _
  | cons field rest =>
    have each (field : String × Json) : Binds (assignmentClause field) [field.2] :=
      ((binds_ident field.1).before (binds_text " = ")).after (binds_bound field.2)
    have set : Binds (separated ", " ((field :: rest).map assignmentClause))
        ((field :: rest).map Prod.snd) := by
      rw [List.map_eq_flatMap (f := Prod.snd)]
      exact binds_separated ", " fun field _ => each field
    exact (((binds_text _).after set).append (binds_ofFragment condition)).before (binds_text _)

theorem binds_nameList (names : List String) : Binds (nameList names) [] :=
  binds_separated_nil ", " fun name _ => binds_ident name

theorem binds_valuesTuple (columns : List String) (row : Row) :
    Binds (valuesTuple columns row)
      (columns.map fun column => (row.get? column).getD .null) := by
  have values := binds_ofFragment
    (Fragment.boundList (columns.map fun column => (row.get? column).getD .null))
  rw [Fragment.params_boundList] at values
  exact ((binds_text "(").after values).before (binds_text ")")

theorem binds_valuesClause (columns : List String) (rows : List Row) :
    Binds (valuesClause columns rows)
      (rows.flatMap fun row => columns.map fun column => (row.get? column).getD .null) := by
  cases columns with
  | nil =>
    have none : (rows.flatMap fun row => [].map fun column => (row.get? column).getD .null) = [] :=
      List.flatMap_eq_nil_iff.mpr fun _ _ => rfl
    rw [valuesClause, none]
    split
    · exact binds_fail _
    · exact binds_text _
  | cons column columns =>
    have names := ((binds_text " (").before (binds_nameList (column :: columns))).before
      (binds_text ") VALUES ")
    exact names.after (binds_separated ", " fun row _ => binds_valuesTuple _ row)

theorem binds_conflictClause (columns : List String) (target : String) :
    Binds (conflictClause columns target) [] := by
  have each (column : String) : Binds (excludedClause column) [] :=
    ((binds_ident column).before (binds_text " = EXCLUDED.")).before (binds_ident column)
  rw [conflictClause]
  split
  · exact binds_fail _
  · refine (((binds_text " ON CONFLICT (").before (binds_nameList _)).before (binds_text ")")).before ?_
    split
    · exact binds_text _
    · exact (binds_text " DO UPDATE SET ").after
        (binds_separated_nil ", " fun column _ => each column)

theorem binds_insertClause (table : Identifier) (rows : List Row) (target : Option String)
    (returning : String) : Binds (insertClause table rows target returning) (cells rows) := by
  rw [cells, ← columnUnion_eq_rowColumns]
  unfold insertClause
  refine (((binds_text _).after (binds_valuesClause _ rows)).before ?_).before (binds_text _)
  cases target with
  | none => exact binds_empty
  | some target => exact binds_conflictClause _ target

/-! ## Statements -/

/-- The statements of a plan bind the values of a chain. -/
structure Plan.Binds (chain : Chain) (plan : Plan) : Prop where
  operation : plan.operation = chain.operation
  statement : ∀ fragment ∈ plan.statement,
    Fragment.params fragment = chain.boundValues plan.operation
  /-- There is a statement, unless no rows are to be returned or inserted. -/
  unsent : plan.statement = none ↔
    chain.extras.headOnly = true ∨ ∃ call ∈ chain.calls, call.InsertsNothing
  countStatement : ∀ fragment ∈ plan.countStatement, Fragment.params fragment = chain.operands
  counted : plan.countStatement.isSome = chain.extras.exactCount

namespace Draft

variable {draft : Draft}

theorem binds_some {clause : Clause} {values : List Json} {statement : Option Fragment}
    (binds : Clause.Binds clause values) (written : clause.result.map some = .ok statement) :
    ∀ fragment ∈ statement, Fragment.params fragment = values := by
  obtain ⟨fragment, done, rfl⟩ := map_eq_ok_iff.mp written
  rintro _ ⟨⟩
  exact binds fragment done

theorem binds_insertStatement {table : Identifier} {payload : Payload} {target : Option String}
    {returning : String} {statement : Option Fragment}
    (written : insertStatement table payload target returning = .ok statement) :
    ∀ fragment ∈ statement, Fragment.params fragment = FluentSql.cells payload.rows := by
  rw [insertStatement] at written
  split at written
  · cases written
    rintro _ ⟨⟩
  · exact binds_some (binds_insertClause table _ target returning) written

/-- What an operation binds: cells, operands, or both. -/
def boundValues (draft : Draft) (condition : Fragment) : Operation → List Json
  | .insert | .upsert => draft.action.cells
  | .update => draft.action.cells ++ Fragment.params condition
  | .select | .delete => Fragment.params condition

theorem binds_statement {table : Identifier} {selection : Selection} {condition : Fragment}
    {statement : Option Fragment}
    (written : draft.statement table selection condition = .ok statement) :
    ∀ fragment ∈ statement,
      Fragment.params fragment = draft.boundValues condition draft.action.operation := by
  have selected := binds_selectClause table selection condition draft.order draft.range draft.limit
  unfold Draft.statement at written
  unfold boundValues
  cases does : draft.action with
  | undecided =>
    rw [does] at written
    exact binds_some selected written
  | select options =>
    rw [does] at written
    dsimp only at written
    split at written
    · cases written
      rintro _ ⟨⟩
    · exact binds_some selected written
  | insert payload =>
    rw [does] at written
    exact binds_insertStatement written
  | upsert payload =>
    rw [does] at written
    exact binds_insertStatement written
  | update row =>
    rw [does] at written
    exact binds_some (binds_updateClause table row condition _) written
  | delete =>
    rw [does] at written
    exact binds_some (binds_deleteClause table condition _) written

theorem binds_countStatement {table : Identifier} {condition : Fragment} :
    ∀ fragment ∈ draft.countStatement table condition,
      Fragment.params fragment = Fragment.params condition := by
  intro fragment counts
  rw [countStatement] at counts
  split at counts
  · split at counts
    · cases counts
      rfl
    · cases counts
  · cases counts

end Draft

/-! ## Plans -/

theorem Call.operation?_eq_map_write? (call : Call) : call.operation? = call.write?.map Prod.fst := by
  cases call <;> rfl

theorem Chain.operation_eq {chain : Chain} {action : Action}
    (originates : Action.Originates chain.calls action) : chain.operation = action.operation := by
  have first : chain.calls.findSome? Call.operation? =
      (chain.calls.findSome? Call.write?).map Prod.fst := by
    rw [List.map_findSome?]
    exact congrArg (chain.calls.findSome? ·) (funext Call.operation?_eq_map_write?)
  rw [operation, first, originates.operation_eq]

/-- A plan binds the values of its chain. -/
theorem Chain.binds_plan {chain : Chain} {plan : Plan} (planned : chain.plan = .ok plan) :
    Plan.Binds chain plan := by
  have whole := planned
  obtain ⟨draft, drafted, planned⟩ := Chain.plan_eq_ok planned
  obtain ⟨table, selection, condition, statement, named, -, filtered, written, rfl⟩ :=
    Draft.plan_eq_ok planned
  have tells := Draft.tells_ofChain drafted
  -- Filter expressions are read on the identifier of the table, and operands by its name.
  have sameTable : table.name = chain.table := by
    rw [← tells.onTable]
    exact Identifier.name_of_ofName named
  have operands : Fragment.params condition = chain.operands := by
    rw [Filter.binds_whereClause table.name draft.filters condition filtered, sameTable,
      tells.operands, Chain.operands]
  have cells : draft.action.cells = chain.cells := tells.cells
  have originates := Draft.originates drafted
  have extras : chain.extras = draft.action.extras := originates.extras_eq
  refine ⟨(Chain.operation_eq originates).symm, ?_, ?_, ?_, (Chain.plan_meets whole).counts⟩
  · intro fragment sent
    rw [Draft.binds_statement written fragment sent]
    show draft.boundValues condition draft.action.operation =
      chain.boundValues draft.action.operation
    cases draft.action.operation <;>
      rw [Draft.boundValues, Chain.boundValues] <;> simp only [operands, cells]
  · rw [extras, ← originates.batch_iff]
    exact Draft.statement_eq_none_iff written
  · intro fragment counts
    rw [Draft.binds_countStatement fragment counts, operands]

/-- A chain that is to return or to insert rows has a statement, which binds its values. -/
theorem Plan.Binds.exists_statement {chain : Chain} {plan : Plan} (binds : Plan.Binds chain plan)
    (shows : chain.extras.headOnly = false) (rows : ∀ call ∈ chain.calls, ¬ call.InsertsNothing) :
    ∃ fragment, plan.statement = some fragment ∧
      Fragment.params fragment = chain.boundValues chain.operation := by
  cases sent : plan.statement with
  | none =>
    rcases binds.unsent.mp sent with head | ⟨call, listed, nothing⟩
    · rw [shows] at head
      cases head
    · exact absurd nothing (rows call listed)
  | some fragment =>
    rw [← binds.operation]
    exact ⟨fragment, rfl, binds.statement fragment sent⟩

/-- The same texts. -/
theorem Fragment.Alike.map_sql_eq {statement statement' : Option Fragment}
    (alike : Option.Rel Fragment.Alike statement statement') :
    statement.map Fragment.sql = statement'.map Fragment.sql := by
  cases alike with
  | none => rfl
  | some alike => exact congrArg some alike.sql_eq

/-- The main result: alike chains fail with the same error, or both have plans. These have the same
statement texts and are equal but for the values, and each binds the values of its own chain: the
cells to be written and the operands, none lost, in the order of the calls. -/
theorem Chain.Alike.plans {chain chain' : Chain} (alike : Chain.Alike chain chain') :
    (∃ error, chain.plan = .error error ∧ chain'.plan = .error error) ∨
    ∃ plan plan', chain.plan = .ok plan ∧ chain'.plan = .ok plan' ∧
      plan.sql = plan'.sql ∧
      plan.countStatement.map Fragment.sql = plan'.countStatement.map Fragment.sql ∧
      Plan.Alike plan plan' ∧ Plan.Binds chain plan ∧ Plan.Binds chain' plan' := by
  rcases alike.plan.outcomes with failed | ⟨plan, plan', one, other, same⟩
  · exact .inl failed
  · have texts := Fragment.Alike.map_sql_eq same.statement
    exact .inr ⟨plan, plan', one, other, by rw [Plan.sql, Plan.sql, texts],
      Fragment.Alike.map_sql_eq same.countStatement, same, binds_plan one, binds_plan other⟩

/-! ## Names that are given to items -/

namespace Items

/-- Gives a name to the row with an identifier, if it has the name or none. -/
def naming (name : String) (id : Json) : Chain :=
  { table := "items"
    calls :=
      [.update (.ok (.object [("name", .string name)])),
        .filter (.compare .eq "id" id),
        .filter (.among "name" [.string name, .null])] }

/-- Stores an item of which the name is known, and one of which the price is. -/
def storing (name : String) (price : Json) : Chain :=
  { table := "items"
    calls :=
      [.insert (.ok (.array [.object [("name", .string name)],
        .object [("price", price), ("name", .null)]]))] }

theorem naming_and_storing_plans :
    (Chain.Alike (naming "lamp" (.int 1)) (naming "'; DROP TABLE items; --" (.string "1 OR 1=1")) ∧
      ∃ plan plan' fragment, (naming "lamp" (.int 1)).plan = .ok plan ∧
        (naming "'; DROP TABLE items; --" (.string "1 OR 1=1")).plan = .ok plan' ∧
        plan.sql = plan'.sql ∧ Plan.Alike plan plan' ∧ plan'.statement = some fragment ∧
        Fragment.params fragment =
          [.string "'; DROP TABLE items; --", .string "1 OR 1=1",
            .string "'; DROP TABLE items; --", .null]) ∧
    Chain.Alike (storing "lamp" (.int 1)) (storing "'; DROP TABLE items; --" (.string "1 OR 1=1")) ∧
      ∃ plan plan' fragment, (storing "lamp" (.int 1)).plan = .ok plan ∧
        (storing "'; DROP TABLE items; --" (.string "1 OR 1=1")).plan = .ok plan' ∧
        plan.sql = plan'.sql ∧ Plan.Alike plan plan' ∧ plan'.statement = some fragment ∧
        Fragment.params fragment =
          [.string "'; DROP TABLE items; --", .null, .null, .string "1 OR 1=1"] := by
  have named : Chain.Alike (naming "lamp" (.int 1))
      (naming "'; DROP TABLE items; --" (.string "1 OR 1=1")) :=
    ⟨rfl, .cons (.update (.object rfl)) (.cons (.filter (.compare ..))
      (.cons (.filter (.among "name" rfl)) .nil))⟩
  have stored : Chain.Alike (storing "lamp" (.int 1))
      (storing "'; DROP TABLE items; --" (.string "1 OR 1=1")) :=
    ⟨rfl, .cons (.insert (.array (.cons (.object rfl) (.cons (.object rfl) .nil)))) .nil⟩
  refine ⟨⟨named, ?_⟩, stored, ?_⟩
  · have succeeds : (naming "lamp" (.int 1)).plan.isOk = true := by decide +kernel
    rcases named.plans with ⟨error, fails, -⟩ | ⟨plan, plan', one, other, sql, -, same, -, binds⟩
    · rw [fails] at succeeds
      cases succeeds
    · have nonempty : ∀ call ∈ (naming "'; DROP TABLE items; --" (.string "1 OR 1=1")).calls,
          ¬ call.InsertsNothing := by simp [naming, Call.InsertsNothing]
      obtain ⟨fragment, sent, bound⟩ := binds.exists_statement rfl nonempty
      exact ⟨plan, plan', fragment, one, other, sql, same, sent, bound⟩
  · have succeeds : (storing "lamp" (.int 1)).plan.isOk = true := by decide +kernel
    rcases stored.plans with ⟨error, fails, -⟩ | ⟨plan, plan', one, other, sql, -, same, -, binds⟩
    · rw [fails] at succeeds
      cases succeeds
    · have nonempty : ∀ call ∈ (storing "'; DROP TABLE items; --" (.string "1 OR 1=1")).calls,
          ¬ call.InsertsNothing := by simp [storing, Call.InsertsNothing]
      obtain ⟨fragment, sent, bound⟩ := binds.exists_statement rfl nonempty
      exact ⟨plan, plan', fragment, one, other, sql, same, sent, bound⟩

end Items

end FluentSql
