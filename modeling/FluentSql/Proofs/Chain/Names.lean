import FluentSql.Proofs.Chain.Batch
import FluentSql.Proofs.Chain.Kind
import FluentSql.Proofs.Chain.Requested
import FluentSql.Proofs.Condition.Parse
import FluentSql.Proofs.Statement.Names
import FluentSql.Run.Execution

/-!
# The names of a chain

The calls of a chain name columns: in filters and their expressions, as sort keys, as conflict targets
and as keys of rows to write. A chain is refused if one of these is not simple, or its table, as long
as the chain heeds the call: sort keys are heeded only where rows are selected, and conflict targets
only where rows are upserted. A call that is not heeded has no part in the plan at all.

Results:
1. `Condition.simple_of_parseGroup`, `Filter.checks_clause`: the columns of filters, at any depth.
2. `Draft.lockstep_ofChain`: sort keys and conflict targets stay apart from all other calls.
3. `Chain.simple_of_plan`, `Chain.plan_without_heedless`: the two halves of the main result.
4. `Chain.names_checked`: the names of heeded calls are checked, and the other calls have no part.
-/

namespace FluentSql

/-! ## Names -/

/-- A filter expression names a column in one of its terms, or in a group inside. -/
inductive Condition.Names : List Char → String → Prop
  | test {text term : List Char} {parts : List (List Char)} {parsed : TermText}
      (split : segments text = .ok parts) (listed : term ∈ parts) (plain : groupOf? term = none)
      (read : TermText.ofText? term = some parsed) : Names text (String.ofList parsed.column)
  | group {text term body : List Char} {parts : List (List Char)} {joiner : Joiner} {name : String}
      (split : segments text = .ok parts) (listed : term ∈ parts)
      (grouped : groupOf? term = some (joiner, body)) (inner : Names body name) : Names text name

/-- A filter names a column. -/
def Filter.Names : Filter → String → Prop
  | .compare _ column _, name | .is column _, name | .among column _, name => name = column
  | .any expression, name => Condition.Names expression.toList name

/-- A call names a column. -/
def Call.Names (call : Call) (name : String) : Prop :=
  match call with
  | .insert input | .upsert input | .update input => ∃ row ∈ inputRows input, name ∈ row.keys
  | .onConflict list => name ∈ conflictTargets list
  | .order key => name = key.column
  | call => ∃ filter ∈ call.filters, filter.Names name

namespace Chain

/-- The chain returns the rows that it selects. -/
def SelectsRows (chain : Chain) : Prop :=
  (∀ call ∈ chain.calls, call.write? = none) ∧ chain.extras.headOnly = false

/-- The chain upserts rows. -/
def UpsertsRows (chain : Chain) : Prop :=
  ∃ input, .upsert input ∈ chain.calls ∧ inputRows input ≠ []

/-- The chain heeds a call. Of the conflict targets it heeds those that are given last. -/
def Heeds (chain : Chain) : Call → Prop
  | .order _ => chain.SelectsRows
  | .onConflict list => chain.UpsertsRows ∧ chain.conflictList = list
  | _ => True

/-- The chain names its table, and the columns that its calls name. -/
def Names (chain : Chain) (name : String) : Prop :=
  name = chain.table ∨ ∃ call ∈ chain.calls, call.Names name

/-- The names that a chain checks: its table, and the columns that the calls name which it heeds. -/
def Checks (chain : Chain) (name : String) : Prop :=
  name = chain.table ∨ ∃ call ∈ chain.calls, chain.Heeds call ∧ call.Names name

end Chain

/-! ## Filters -/

namespace Condition

/-- A test that is read has a simple column. -/
theorem simple_of_parseTest {table : String} {term : List Char} {parsed : TermText}
    {condition : Condition} (read : parseTest table term = .ok condition)
    (found : TermText.ofText? term = some parsed) :
    isSimpleName (String.ofList parsed.column).toList = true := by
  rw [parseTest, found] at read
  obtain ⟨column, named, -⟩ := bind_eq_ok_iff.mp read
  obtain ⟨_, -, rest⟩ := bind_eq_ok_iff.mp named
  obtain ⟨_, own, -⟩ := bind_eq_ok_iff.mp rest
  exact Identifier.simple_of_ofName own

/-- An expression that is read names only simple columns. The induction is on how a column is
named. -/
theorem simple_of_parseGroup {table : String} {joiner : Joiner} {text : List Char} {name : String}
    {condition : Condition} (names : Names text name)
    (read : parseGroup table joiner text = .ok condition) : isSimpleName name.toList = true := by
  induction names generalizing joiner condition with
  | test split listed plain found =>
    obtain ⟨parts, terms, split', all, -, -⟩ := exists_terms_of_parseGroup read
    cases split.symm.trans split'
    obtain ⟨own, -, parsed⟩ := exists_of_mem_forall₂ (mapM_eq_ok_iff.mp all) listed
    rw [parseTerm, plain] at parsed
    exact simple_of_parseTest parsed found
  | group split listed grouped _ ih =>
    obtain ⟨parts, terms, split', all, -, -⟩ := exists_terms_of_parseGroup read
    cases split.symm.trans split'
    obtain ⟨own, -, parsed⟩ := exists_of_mem_forall₂ (mapM_eq_ok_iff.mp all) listed
    rw [parseTerm, grouped] at parsed
    exact ih parsed

end Condition

namespace Filter

open Clause

theorem checks_testClause (table column : String) (test : Test) :
    Checks (testClause table column test) column := (checks_qualified table column).before

theorem checks_clause (table : String) {filter : Filter} {name : String} (names : filter.Names name) :
    Checks (filter.clause table) name := by
  cases filter with
  | compare comparison column value =>
    cases names
    exact checks_testClause table name _
  | is column value =>
    cases names
    rw [clause]
    split
    · exact checks_testClause table name _
    · exact checks_fail _
  | among column values =>
    cases names
    cases values with
    | nil =>
      -- Nothing is written of the column, but its name is looked at.
      rw [clause]
      split
      · rename_i found
        exact fun _ _ => Identifier.simple_of_ofName found
      · exact checks_fail _
    | cons value rest => exact checks_testClause table name _
  | any expression =>
    apply checks_ofExcept
    intro fragment written
    obtain ⟨condition, read, -⟩ := map_eq_ok_iff.mp written
    exact Condition.simple_of_parseGroup names read

theorem checks_whereClause (table : String) {filters : List Filter} {filter : Filter} {name : String}
    (given : filter ∈ filters) (names : filter.Names name) :
    Checks (whereClause table filters) name := by
  cases filters with
  | nil => cases given
  | cons => exact (checks_separated _ given (checks_clause table names)).after

end Filter

/-! ## Clauses -/

section

open Clause

theorem checks_orderClause (table : Identifier) {keys : List OrderKey} {key : OrderKey}
    (given : key ∈ keys) : Checks (orderClause table keys) key.column := by
  cases keys with
  | nil => cases given
  | cons =>
    have own : Checks (key.clause table) key.column := (checks_qualified _ key.column).before.before
    exact (checks_separated ", " given own).after

theorem checks_nameList {names : List String} {name : String} (given : name ∈ names) :
    Checks (nameList names) name := checks_separated ", " given (checks_ident name)

theorem checks_valuesClause {columns : List String} (rows : List Row) {name : String}
    (given : name ∈ columns) : Checks (valuesClause columns rows) name := by
  cases columns with
  | nil => cases given
  | cons => exact (checks_nameList given).after.before.before

theorem checks_conflictClause (columns : List String) {list name : String}
    (given : name ∈ conflictTargets list) : Checks (conflictClause columns list) name := by
  rw [conflictClause]
  split
  · exact checks_fail _
  · exact (checks_nameList given).after.before.before

theorem checks_insertClause (table : Identifier) {rows : List Row} (target : Option String)
    (returning : String) {row : Row} {name : String} (given : row ∈ rows) (key : name ∈ row.keys) :
    Checks (insertClause table rows target returning) name :=
  (checks_valuesClause rows (mem_columnUnion.mpr ⟨row, given, key⟩)).after.before.before

theorem checks_insertClause_target (table : Identifier) (rows : List Row) {list name : String}
    (returning : String) (given : name ∈ conflictTargets list) :
    Checks (insertClause table rows (some list) returning) name :=
  (checks_conflictClause _ given).after.before

theorem checks_updateClause (table : Identifier) {row : Row} (condition : Fragment)
    (returning : String) {name : String} (key : name ∈ row.keys) :
    Checks (updateClause table row condition returning) name := by
  cases row with
  | nil => cases key
  | cons =>
    obtain ⟨assignment, given, rfl⟩ := List.mem_map.mp key
    have own : Checks (assignmentClause assignment) assignment.1 := (checks_ident _).before.before
    exact (checks_separated ", " given own).after.before.before

end

/-! ## Drafts -/

namespace Draft

/-- The draft returns the rows that it selects. -/
def SelectsRows (draft : Draft) : Prop :=
  draft.action.operation = .select ∧ draft.action.extras.headOnly = false

/-- The draft upserts rows. -/
def UpsertsRows (draft : Draft) : Prop := ∃ payload, draft.action = .upsert payload ∧ payload.rows ≠ []

variable {draft next : Draft} {chain : Chain} {table : Identifier} {selection : Selection}
  {condition : Fragment} {statement : Option Fragment} {name : String}

theorem simple_of_order (written : draft.statement table selection condition = .ok statement)
    (selects : draft.SelectsRows) {key : OrderKey} (given : key ∈ draft.order) :
    isSimpleName key.column.toList = true := by
  have checks {page : Clause} (before : Clause) :
      Clause.Checks (before ++ orderClause table draft.order ++ page) key.column :=
    (checks_orderClause table given).after.before
  obtain ⟨reads, rows⟩ := selects
  rw [Draft.statement] at written
  cases action : draft.action with
  | undecided =>
    rw [action] at written
    obtain ⟨fragment, found, -⟩ := map_eq_ok_iff.mp written
    exact checks _ fragment found
  | select options =>
    rw [action] at written rows
    have returned : ¬ options.headOnly = true := Bool.eq_false_iff.mp rows
    dsimp only at written
    rw [if_neg returned] at written
    obtain ⟨fragment, found, -⟩ := map_eq_ok_iff.mp written
    exact checks _ fragment found
  | _ =>
    rw [action] at reads
    cases reads

theorem simple_of_target (written : draft.statement table selection condition = .ok statement)
    (upserts : draft.UpsertsRows)
    (given : name ∈ conflictTargets (draft.conflictTarget.getD defaultTarget)) :
    isSimpleName name.toList = true := by
  obtain ⟨payload, action, nonempty⟩ := upserts
  rw [Draft.statement, action] at written
  obtain ⟨fragment, -, found⟩ := insertStatement_eq_ok nonempty written
  exact checks_insertClause_target table _ _ given fragment found

theorem simple_of_key (written : draft.statement table selection condition = .ok statement)
    {payload : Payload} (holds : draft.action.payload? = some payload) {row : Row}
    (given : row ∈ payload.rows) (key : name ∈ row.keys) : isSimpleName name.toList = true := by
  have nonempty : payload.rows ≠ [] := List.ne_nil_of_mem given
  rw [Draft.statement] at written
  cases action : draft.action with
  | insert own | upsert own =>
    rw [action] at written holds
    cases holds
    obtain ⟨fragment, -, found⟩ := insertStatement_eq_ok nonempty written
    exact checks_insertClause table _ _ given key fragment found
  | update own =>
    rw [action] at written holds
    cases holds
    cases List.mem_singleton.mp given
    obtain ⟨fragment, found, -⟩ := map_eq_ok_iff.mp written
    exact checks_updateClause table condition _ key fragment found
  | _ =>
    rw [action] at holds
    cases holds

/-! ## What a draft heeds -/

theorem selectsRows_iff (drafted : ofChain chain = .ok draft) :
    draft.SelectsRows ↔ chain.SelectsRows := by
  have originates := Draft.originates drafted
  have extras : chain.extras = draft.action.extras := originates.extras_eq
  rw [SelectsRows, Chain.SelectsRows, extras]
  refine and_congr_left fun _ => ⟨originates.unwritten, fun unwritten => ?_⟩
  rcases originates.unwritten_or_written with ⟨-, reads, -⟩ | ⟨_, call, _, split, writes, -, -⟩
  · exact reads
  · rw [unwritten call (by simp [split])] at writes
    cases writes

theorem upsertsRows_iff (drafted : ofChain chain = .ok draft) :
    draft.UpsertsRows ↔ chain.UpsertsRows := by
  have originates := Draft.originates drafted
  constructor
  · rintro ⟨payload, action, nonempty⟩
    rcases originates.unwritten_or_written with ⟨-, reads, -⟩ | ⟨_, call, _, split, writes, -, -⟩
    · rw [action] at reads
      cases reads
    · rw [action] at writes
      cases call with
      | upsert input =>
        obtain ⟨-, read⟩ := Prod.mk.inj (Option.some.inj writes)
        obtain ⟨_, handed, same⟩ := map_eq_ok_iff.mp read
        cases same
        rw [Payload.rows_ofInput handed] at nonempty
        exact ⟨input, by simp [split], nonempty⟩
      | _ => cases writes
  · rintro ⟨input, listed, nonempty⟩
    obtain ⟨payload, handed, decided⟩ := map_eq_ok_iff.mp (originates.action_of_mem listed rfl)
    exact ⟨payload, decided.symm, by rwa [Payload.rows_ofInput handed]⟩

/-! ## Calls that stay apart

A sort key or a conflict target changes nothing but what its own kind says. -/

/-- Two drafts say the same of all but a kind. -/
def AgreesBut (kind : CallKind) (draft draft' : Draft) : Prop := draft' = draft.taking kind draft'

variable {draft' : Draft} {call : Call} {kind : CallKind}

theorem exists_ok_of_kind (apart : call.kind = .order ∨ call.kind = .conflict) (draft : Draft) :
    ∃ next, draft.call call = .ok next := by
  cases call with
  | order | onConflict => exact ⟨_, rfl⟩
  | _ => rcases apart with wrong | wrong <;> cases wrong

/-- The step lemma: a call goes the same way in both drafts. -/
theorem lockstep_call (apart : kind = .order ∨ kind = .conflict) (agrees : AgreesBut kind draft draft')
    (call : Call) : Lockstep (AgreesBut kind) (draft.call call) (draft'.call call) := by
  by_cases own : call.kind = kind
  · subst own
    obtain ⟨next, called⟩ := exists_ok_of_kind apart draft
    obtain ⟨next', called'⟩ := exists_ok_of_kind apart draft'
    rw [called, called']
    refine .ok ?_
    calc next' = draft'.taking call.kind next' := eq_taking_of_call called'
      _ = (draft.taking call.kind draft').taking call.kind next' := by rw [← agrees]
      _ = (draft.taking call.kind next).taking call.kind next' := by
        rw [taking_taking, taking_taking]
      _ = next.taking call.kind next' := by rw [← eq_taking_of_call called]
  · rw [agrees, call_taking (Ne.symm own)]
    cases draft.call call with
    | error error => exact .error error
    | ok next => exact .ok (by cases kind <;> rfl)

/-- The run lemma: without a sort key or a conflict target, the draft is the same but for what that
kind says. -/
theorem lockstep_ofChain (table : String) (before after : List Call)
    (apart : call.kind = .order ∨ call.kind = .conflict) :
    Lockstep (AgreesBut call.kind) (ofChain ⟨table, before ++ call :: after⟩)
      (ofChain ⟨table, before ++ after⟩) := by
  rw [ofChain, ofChain, List.foldlM_append, List.foldlM_append]
  cases before.foldlM Draft.call (new table) with
  | error error => exact .error error
  | ok now =>
    obtain ⟨next, called⟩ := exists_ok_of_kind apart now
    rw [ok_bind, ok_bind, List.foldlM_cons, called, ok_bind]
    have items : List.Forall₂ Eq after after := List.forall₂_eq_eq_eq ▸ rfl
    refine Lockstep.foldlM items ?_ next now ?_
    · rintro state state' item _ agrees rfl
      exact lockstep_call apart agrees item
    · rw [AgreesBut, eq_taking_of_call called, taking_taking]
      cases call.kind <;> rfl

/-! ## Calls that have no part -/

theorem plan_taking_order (heedless : ¬ draft.SelectsRows) (source : Draft) :
    (draft.taking .order source).plan = draft.plan := by
  rcases draft with ⟨table, action, columns, filters, order, limit, range, demand, target⟩
  cases action with
  | undecided => exact absurd ⟨rfl, rfl⟩ heedless
  | select options =>
    rcases options with ⟨exactCount, _ | _⟩
    · exact absurd ⟨rfl, rfl⟩ heedless
    · rfl
  | _ => rfl

theorem plan_taking_conflict (heedless : ¬ draft.UpsertsRows) (source : Draft) :
    (draft.taking .conflict source).plan = draft.plan := by
  rcases draft with ⟨table, action, columns, filters, order, limit, range, demand, target⟩
  cases action with
  | upsert payload =>
    rcases payload with ⟨shape, _ | ⟨row, rest⟩⟩
    · rfl
    · exact absurd ⟨_, rfl, nofun⟩ heedless
  | _ => rfl

end Draft

/-! ## Chains -/

namespace Chain

variable {chain : Chain} {plan : Plan} {name : String} {before after : List Call} {call : Call}

/-- An action holds the rows that any call hands over. -/
theorem payload_of_input {calls : List Call} {action : Action}
    (originates : Action.Originates calls action) (listed : call ∈ calls) {input : Input}
    (hands : call.input? = some input) :
    ∃ payload, action.payload? = some payload ∧ payload.rows = inputRows input := by
  cases call with
  | insert | upsert =>
    cases hands
    obtain ⟨payload, read, rfl⟩ := map_eq_ok_iff.mp (originates.action_of_mem listed rfl)
    exact ⟨payload, rfl, Payload.rows_ofInput read⟩
  | update =>
    cases hands
    obtain ⟨row, read, rfl⟩ := Draft.updateAction_eq_ok (originates.action_of_mem listed rfl)
    exact ⟨_, rfl, read.symm⟩
  | _ => cases hands

/-- A chain that has a plan has simple names where it heeds the calls. -/
theorem simple_of_plan (planned : chain.plan = .ok plan) (checks : chain.Checks name) :
    isSimpleName name.toList = true := by
  obtain ⟨draft, drafted, planned⟩ := Chain.plan_eq_ok planned
  obtain ⟨table, selection, condition, statement, named, -, filtered, written, -⟩ :=
    Draft.plan_eq_ok planned
  have keys (call : Call) (listed : call ∈ chain.calls) (input : Input)
      (hands : call.input? = some input) (row : Row) (given : row ∈ inputRows input)
      (key : name ∈ row.keys) : isSimpleName name.toList = true := by
    obtain ⟨payload, holds, rows⟩ := payload_of_input (Draft.originates drafted) listed hands
    rw [← rows] at given
    exact Draft.simple_of_key written holds given key
  have columns (call : Call) (listed : call ∈ chain.calls) (filter : Filter)
      (given : filter ∈ call.filters) (names : filter.Names name) :
      isSimpleName name.toList = true := by
    have present : filter ∈ draft.filters := by
      rw [Draft.filters_ofChain drafted]
      exact List.mem_flatMap.mpr ⟨call, listed, given⟩
    exact Filter.checks_whereClause table.name present names condition filtered
  rcases checks with rfl | ⟨call, listed, heeds, names⟩
  · rw [← (Draft.tells_ofChain drafted).onTable]
    exact Identifier.simple_of_ofName named
  · cases call with
    | insert input | upsert input | update input =>
      obtain ⟨row, given, key⟩ := names
      exact keys _ listed input rfl row given key
    | onConflict list =>
      obtain ⟨upserts, rfl⟩ := heeds
      refine Draft.simple_of_target written ((Draft.upsertsRows_iff drafted).mpr upserts) ?_
      rwa [Draft.conflictTarget_ofChain drafted]
    | order key =>
      cases names
      refine Draft.simple_of_order written ((Draft.selectsRows_iff drafted).mpr heeds) ?_
      rw [Draft.order_ofChain drafted]
      exact List.mem_flatMap.mpr ⟨_, listed, List.mem_singleton_self key⟩
    | _ =>
      obtain ⟨filter, given, names⟩ := names
      exact columns _ listed filter given names

/-- The last list of conflict targets stays the last one without another one before it. -/
theorem conflictList_without {list : String} (split : chain.calls = before ++ .onConflict list :: after)
    (other : chain.conflictList ≠ list) :
    ((before ++ after).filterMap Call.conflictList?).getLast? =
      (chain.calls.filterMap Call.conflictList?).getLast? := by
  have own : Call.conflictList? (.onConflict list) = some list := rfl
  rw [conflictList, split, List.filterMap_append, List.filterMap_cons_some own] at other
  rw [split, List.filterMap_append, List.filterMap_append, List.filterMap_cons_some own]
  cases later : after.filterMap Call.conflictList? with
  | nil =>
    rw [later, List.getLast?_concat] at other
    exact absurd rfl other
  | cons last rest => rw [List.getLast?_append_cons, List.getLast?_append_cons, List.getLast?_cons_cons]

/-- A call that the chain does not heed has no part in its plan. -/
theorem plan_without_heedless (split : chain.calls = before ++ call :: after)
    (heedless : ¬ chain.Heeds call) :
    Chain.plan { chain with calls := before ++ after } = chain.plan := by
  have apart : call.kind = .order ∨ call.kind = .conflict := by
    cases call with
    | order => exact .inl rfl
    | onConflict => exact .inr rfl
    | _ => exact absurd trivial heedless
  have runs := Draft.lockstep_ofChain chain.table before after apart
  rw [← split] at runs
  rw [Chain.plan, Chain.plan]
  rcases runs.outcomes with ⟨error, failed, failed'⟩ | ⟨draft, draft', drafted, drafted', agrees⟩
  · rw [failed, failed']
  · rw [drafted, drafted', ok_bind, ok_bind]
    cases call with
    | order key =>
      rw [agrees]
      exact Draft.plan_taking_order (mt (Draft.selectsRows_iff drafted).mp heedless) draft'
    | onConflict list =>
      by_cases upserts : chain.UpsertsRows
      · have other : chain.conflictList ≠ list := fun same => heedless ⟨upserts, same⟩
        have same : draft'.conflictTarget = draft.conflictTarget := by
          rw [Draft.conflictTarget_ofChain drafted, Draft.conflictTarget_ofChain drafted',
            conflictList_without split other]
        rw [agrees, Call.kind, Draft.taking, same]
      · rw [agrees]
        exact Draft.plan_taking_conflict (mt (Draft.upsertsRows_iff drafted).mp upserts) draft'
    | _ => rcases apart with wrong | wrong <;> cases wrong

/-- The main result: a chain has no plan, and runs without a trace, if it names something that is not
simple in a call that it heeds. A call that it does not heed has no part in its plan. -/
theorem names_checked (chain : Chain) :
    (∀ name, chain.Checks name → isSimpleName name.toList = false →
      ∃ error, chain.plan = .error error ∧
        ∀ {σ : Type} (runner : Runner σ) (session : Session σ),
          runner.runChain chain session = (.fail error, session)) ∧
    ∀ before call after, chain.calls = before ++ call :: after → ¬ chain.Heeds call →
      Chain.plan { chain with calls := before ++ after } = chain.plan := by
  refine ⟨fun name checks wild => ?_, fun before call after => plan_without_heedless⟩
  cases planned : chain.plan with
  | ok plan =>
    rw [simple_of_plan planned checks] at wild
    cases wild
  | error error =>
    refine ⟨error, rfl, fun runner session => ?_⟩
    rw [Runner.runChain, planned]
    rfl

end Chain

/-! ## Tickets -/

namespace Tickets

/-- A column that is not simple, in a group inside a filter expression. -/
def hidden : Chain := ⟨"tickets", [.filter (.any "id.eq.4,and(open.is.true,due day.lt.9)"), .delete]⟩

/-- A sort key that is not simple, where there are no rows to sort. -/
def sorting : Call := .order ⟨"due day", true, none⟩

/-- Conflict targets of which one is not simple. -/
def settling : Call := .onConflict "id, due day"

def deleting : Chain := ⟨"tickets", [.delete, sorting]⟩

theorem hidden_names : hidden.Checks "due day" := by
  have terms : segments "id.eq.4,and(open.is.true,due day.lt.9)".toList =
      .ok ["id.eq.4".toList, "and(open.is.true,due day.lt.9)".toList] := rfl
  have grouped : groupOf? "and(open.is.true,due day.lt.9)".toList =
      some (.and, "open.is.true,due day.lt.9".toList) := by decide
  have tests : segments "open.is.true,due day.lt.9".toList =
      .ok ["open.is.true".toList, "due day.lt.9".toList] := rfl
  have read : TermText.ofText? "due day.lt.9".toList =
      some ⟨"due day".toList, "lt".toList, "9".toList⟩ := by decide
  have named : Condition.Names "id.eq.4,and(open.is.true,due day.lt.9)".toList "due day" :=
    .group terms (by decide) grouped (.test tests (by decide) (by decide) read)
  exact .inr ⟨_, List.mem_cons_self, trivial, _, List.mem_singleton_self _, named⟩

theorem hidden_refused_and_order_dropped :
    (∃ error, hidden.plan = .error error) ∧ ¬ deleting.Heeds sorting ∧
      Chain.plan ⟨"tickets", [.delete]⟩ = deleting.plan := by
  have heedless : ¬ deleting.Heeds sorting := fun heeds => nomatch heeds.1 .delete List.mem_cons_self
  obtain ⟨error, refused, -⟩ :=
    (Chain.names_checked hidden).1 "due day" hidden_names (by decide)
  exact ⟨⟨error, refused⟩, heedless,
    (Chain.names_checked deleting).2 [.delete] sorting [] rfl heedless⟩

/-- Chains that name the column in a call which they do not heed. -/
def unheeding : List Chain :=
  [deleting,
    ⟨"tickets", [.select "*" ⟨true, true⟩, sorting]⟩,
    ⟨"tickets", [.insert (.ok (.object [("id", .int 4)])), settling]⟩,
    ⟨"tickets", [.upsert (.ok (.array [])), settling]⟩,
    ⟨"tickets", [.upsert (.ok (.object [("id", .int 4)])), settling, .onConflict "id"]⟩]

theorem unheeding_names : ∀ chain ∈ unheeding, chain.Names "due day" := by
  have sorted : sorting.Names "due day" := rfl
  have settled : settling.Names "due day" := by
    show "due day" ∈ conflictTargets "id, due day"
    decide +kernel
  have listed : ∀ chain ∈ unheeding, sorting ∈ chain.calls ∨ settling ∈ chain.calls := by
    simp [unheeding, deleting]
  intro chain present
  rcases listed chain present with given | given
  · exact .inr ⟨sorting, given, sorted⟩
  · exact .inr ⟨settling, given, settled⟩

/-- All of these chains have a plan, though the column is not simple. -/
theorem names_unchecked :
    isSimpleName "due day".toList = false ∧
      ∀ chain ∈ unheeding, chain.Names "due day" ∧ ∃ plan, chain.plan = .ok plan := by
  refine ⟨by decide, fun chain present => ⟨unheeding_names chain present, ?_⟩⟩
  have checked : ∀ chain ∈ unheeding, chain.plan.toBool = true := by decide +kernel
  have planned := checked chain present
  cases found : chain.plan with
  | ok plan => exact ⟨plan, rfl⟩
  | error error =>
    rw [found] at planned
    cases planned

end Tickets

end FluentSql
