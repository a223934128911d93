import FluentSql.Proofs.Chain.Scope

/-!
# Rows and their number

A select shows a page of the rows that meet its filters, and can ask for the number of all of them.
Its two statements begin in different ways and have one condition, that of the filters of the chain.
The order, the page and the columns come in the statement for rows only, so the number does not
depend on them.

Results:
1. `Chain.selects_of_plan`: the parts of the statements, from the calls of the chain.
2. `Chain.countStatement_eq`: the number depends on the table and on the filters.
3. `Chain.rows_and_count`: the two statements side by side, and what the number depends on.
-/

namespace FluentSql

/-- Without values in it, a fragment has the same text wherever it stands. -/
theorem Fragment.sqlFrom_of_unbound {fragment : Fragment} (unbound : Fragment.params fragment = [])
    (count : Nat) : Fragment.sqlFrom count fragment = Fragment.sql fragment := by
  rw [Fragment.sql]
  induction fragment with
  | nil => rfl
  | cons piece rest ih =>
    cases piece with
    | text sql => rw [Fragment.sqlFrom, Fragment.sqlFrom, ih unbound]
    | bound value => cases unbound

/-- The select list that a call gives. -/
def Call.columns? : Call → Option String
  | .select columns _ => some columns
  | _ => none

namespace Draft

variable {draft next : Draft} {call : Call} {chain : Chain}

theorem columns_call (called : draft.call call = .ok next) :
    next.columns = call.columns?.or draft.columns := by
  cases call with
  | select columns options =>
    rw [Draft.call, select] at called
    split at called
    · cases called
      rfl
    · cases called
      rfl
    · split at called <;> cases called
      rfl
  | insert | upsert | update | delete =>
    obtain ⟨-, action, -, rfl⟩ := write_eq_ok called
    rfl
  | _ =>
    rw [eq_taking_of_call called]
    rfl

theorem columns_ofChain (drafted : ofChain chain = .ok draft) :
    draft.columns = (chain.calls.filterMap Call.columns?).getLast? :=
  last_ofChain (fun _ _ _ called => columns_call called) (fun _ => rfl) drafted

end Draft

namespace Chain

/-- The last select list of a chain; all columns, if it gives none. -/
def selectList (chain : Chain) : String :=
  ((chain.calls.filterMap Call.columns?).getLast?).getD "*"

/-- All sort keys of a chain, in the order of its calls. -/
def sortKeys (chain : Chain) : List OrderKey := chain.calls.flatMap Call.sortKeys

/-- The parts that the statements of a chain are put together from when it selects. The condition is
the clause of its filters alone. -/
structure Selects (chain : Chain) (plan : Plan) (condition order page : Fragment) : Prop where
  table : plan.table.name = chain.table
  selection : Selection.parse chain.selectList = .ok plan.selection
  condition : (Filter.whereClause chain.table chain.filters).result = .ok condition
  order : (orderClause plan.table chain.sortKeys).result = .ok order
  page : (pageClause chain.range? chain.limit?).result = .ok page

/-- The beginning of the statement for rows. -/
def rowsHead (plan : Plan) : String :=
  "SELECT " ++ plan.selection.columnListSql plan.table ++ " FROM " ++ plan.table.sql

end Chain

/-! ## The statement for rows -/

section

variable {table : Identifier} {selection : Selection} {condition fragment : Fragment}
  {keys : List OrderKey} {range : Option (Nat × Nat)} {limit : Option Nat}

theorem exists_parts_of_selectClause
    (written : (selectClause table selection condition keys range limit).result = .ok fragment) :
    ∃ order page, (orderClause table keys).result = .ok order ∧
      (pageClause range limit).result = .ok page ∧
      fragment = Fragment.text ("SELECT " ++ selection.columnListSql table ++ " FROM " ++ table.sql) ++
        condition ++ order ++ page := by
  obtain ⟨_, page, sorted, paged, rfl⟩ := Clause.result_append_eq_ok.mp written
  obtain ⟨_, order, filtered, ordered, rfl⟩ := Clause.result_append_eq_ok.mp sorted
  obtain ⟨_, _, head, given, rfl⟩ := Clause.result_append_eq_ok.mp filtered
  cases head
  cases given
  exact ⟨order, page, ordered, paged, rfl⟩

end

namespace Draft

variable {draft : Draft} {table : Identifier} {selection : Selection} {condition : Fragment}
  {statement : Option Fragment}

/-- A select that is to return rows has a statement, which is that of its clause. -/
theorem exists_selectClause (written : draft.statement table selection condition = .ok statement)
    (selects : draft.action.operation = .select) (rows : draft.action.extras.headOnly = false) :
    ∃ fragment, statement = some fragment ∧
      (selectClause table selection condition draft.order draft.range draft.limit).result =
        .ok fragment := by
  rw [Draft.statement] at written
  cases action : draft.action with
  | undecided =>
    rw [action] at written
    obtain ⟨fragment, found, rfl⟩ := map_eq_ok_iff.mp written
    exact ⟨fragment, rfl, found⟩
  | select options =>
    rw [action] at written rows
    have shown : options.headOnly = false := rows
    dsimp only at written
    rw [shown, if_neg Bool.false_ne_true] at written
    obtain ⟨fragment, found, rfl⟩ := map_eq_ok_iff.mp written
    exact ⟨fragment, rfl, found⟩
  | _ =>
    rw [action] at selects
    cases selects

/-- Rows are counted just when a select asks for their number. -/
theorem countStatement_eq (draft : Draft) (table : Identifier) (condition : Fragment) :
    draft.countStatement table condition =
      if draft.action.extras.exactCount then some (countFragment table condition) else none := by
  rw [countStatement]
  cases draft.action <;> rfl

end Draft

/-! ## Chains -/

namespace Chain

variable {chain : Chain} {plan : Plan}

/-- The parts of the statements are those that the calls of the chain ask for. -/
theorem selects_of_plan (planned : chain.plan = .ok plan) (selects : plan.operation = .select)
    (rows : chain.extras.headOnly = false) :
    ∃ condition order page, chain.Selects plan condition order page ∧
      plan.statement = some (Fragment.text (rowsHead plan) ++ condition ++ order ++ page) := by
  obtain ⟨draft, drafted, planned⟩ := Chain.plan_eq_ok planned
  obtain ⟨table, selection, condition, statement, named, parsed, filtered, written, rfl⟩ :=
    Draft.plan_eq_ok planned
  have extras : chain.extras = draft.action.extras := (Draft.originates drafted).extras_eq
  rw [extras] at rows
  have same : table.name = chain.table := by
    rw [Identifier.name_of_ofName named]
    exact (Draft.tells_ofChain drafted).onTable
  obtain ⟨fragment, rfl, found⟩ := Draft.exists_selectClause written selects rows
  obtain ⟨order, page, ordered, paged, rfl⟩ := exists_parts_of_selectClause found
  rw [Draft.columns_ofChain drafted] at parsed
  rw [same, Draft.filters_ofChain drafted] at filtered
  rw [Draft.order_ofChain drafted] at ordered
  rw [Draft.range_ofChain drafted, Draft.limit_ofChain drafted] at paged
  exact ⟨condition, order, page, ⟨same, parsed, filtered, ordered, paged⟩, rfl⟩

/-- What is counted depends on the table and on the filters. -/
theorem countStatement_eq (planned : chain.plan = .ok plan) :
    plan.table.name = chain.table ∧
      ∃ condition, (Filter.whereClause chain.table chain.filters).result = .ok condition ∧
        plan.countStatement =
          if chain.extras.exactCount then some (countFragment plan.table condition) else none := by
  obtain ⟨draft, drafted, planned⟩ := Chain.plan_eq_ok planned
  obtain ⟨table, selection, condition, statement, named, -, filtered, -, rfl⟩ :=
    Draft.plan_eq_ok planned
  have extras : chain.extras = draft.action.extras := (Draft.originates drafted).extras_eq
  have same : table.name = chain.table := by
    rw [Identifier.name_of_ofName named]
    exact (Draft.tells_ofChain drafted).onTable
  rw [same, Draft.filters_ofChain drafted] at filtered
  refine ⟨same, condition, filtered, ?_⟩
  rw [extras]
  exact Draft.countStatement_eq draft table condition

/-- Options are only given where rows are selected. -/
theorem select_of_extras (planned : chain.plan = .ok plan) (asked : chain.extras ≠ .default) :
    plan.operation = .select := by
  obtain ⟨draft, drafted, planned, operation⟩ := exists_draft_of_plan planned
  rw [show chain.extras = draft.action.extras from (Draft.originates drafted).extras_eq] at asked
  rw [← operation]
  cases action : draft.action with
  | undecided | select => rfl
  | _ =>
    rw [action] at asked
    exact absurd rfl asked

/-- The text of the statement for rows. The condition is the only part with values in it. -/
theorem sql_rows {condition order page : Fragment} (selects : chain.Selects plan condition order page)
    (head : String) :
    Fragment.sql (Fragment.text head ++ condition ++ order ++ page) =
        head ++ Fragment.sql condition ++ Fragment.sql order ++ Fragment.sql page ∧
      Fragment.params (Fragment.text head ++ condition ++ order ++ page) =
        Fragment.params condition := by
  have ordered : Fragment.params order = [] := binds_orderClause _ _ order selects.order
  have paged : Fragment.params page = [] := binds_pageClause _ _ page selects.page
  constructor
  · rw [Fragment.sql, Fragment.sqlFrom_append, Fragment.sqlFrom_append, Fragment.sqlFrom_append,
      Fragment.sqlFrom_of_unbound ordered, Fragment.sqlFrom_of_unbound paged, Fragment.sqlFrom_text]
    rfl
  · simp only [Fragment.params_append, Fragment.params_text, ordered, paged, List.append_nil,
      List.nil_append]

/-- The main result. The statement for rows and the one that counts them have the clause of the
filters in common, text, placeholders and values. Chains with the same filters on one table count
the same, whatever their columns, order, pages and the number of rows that they expect. -/
theorem rows_and_count (planned : chain.plan = .ok plan) (asked : chain.extras = ⟨true, false⟩) :
    (∃ rows count condition order page,
      plan.statement = some rows ∧ plan.countStatement = some count ∧
      chain.Selects plan condition order page ∧
      Fragment.sql rows = "SELECT " ++ plan.selection.columnListSql plan.table ++ " FROM " ++
        plan.table.sql ++ Fragment.sql condition ++ Fragment.sql order ++ Fragment.sql page ∧
      Fragment.sql count = "SELECT COUNT(*) AS \"count\" FROM " ++ plan.table.sql ++
        Fragment.sql condition ∧
      Fragment.params rows = Fragment.params condition ∧
      Fragment.params count = Fragment.params condition) ∧
    ∀ (other : Chain) (plan' : Plan), other.plan = .ok plan' → other.table = chain.table →
      other.filters = chain.filters → other.extras.exactCount = true →
      plan'.countStatement = plan.countStatement := by
  have selects : plan.operation = .select := select_of_extras planned (by rw [asked]; decide)
  obtain ⟨named, condition', filtered', counted⟩ := countStatement_eq planned
  rw [asked, if_pos rfl] at counted
  constructor
  · obtain ⟨condition, order, page, parts, stated⟩ :=
      selects_of_plan planned selects (by rw [asked])
    cases filtered'.symm.trans parts.condition
    obtain ⟨text, values⟩ := sql_rows parts (rowsHead plan)
    refine ⟨_, _, condition', order, page, stated, counted, parts, text, ?_, values, ?_⟩
    · rw [countFragment, Fragment.sql, Fragment.sqlFrom_append, Fragment.sqlFrom_text]
      rfl
    · rw [countFragment, Fragment.params_append, Fragment.params_text, List.nil_append]
  · intro other plan' planned' table filters exactly
    obtain ⟨named', condition, filtered, counted'⟩ := countStatement_eq planned'
    rw [exactly, if_pos rfl] at counted'
    rw [table, filters] at filtered
    cases filtered.symm.trans filtered'
    have tables : plan'.table = plan.table :=
      Identifier.name_injective (named'.trans (table.trans named.symm))
    rw [counted, counted', tables]

end Chain

namespace Invoices

def ofInterest : List Call :=
  [.filter (.any "state.eq.late,and(state.eq.open,or(due.lt.10,total.gt.99))"),
   .filter (.among "customer" [.int 3, .int 8])]

/-- The ten invoices that are due first, and how many there are. -/
def dueFirst : Chain :=
  ⟨"invoices", .select "id, total" ⟨true, false⟩ :: ofInterest ++
    [.order ⟨"due", true, some true⟩, .range 0 9]⟩

/-- How many invoices there are. -/
def howMany : Chain := ⟨"invoices", ofInterest ++ [.limit 5, .one, .select "*" ⟨true, true⟩]⟩

theorem counted_alike :
    ∃ plan plan' rows count, dueFirst.plan = .ok plan ∧ dueFirst.extras = ⟨true, false⟩ ∧
      howMany.plan = .ok plan' ∧ plan.statement = some rows ∧ plan.countStatement = some count ∧
      Fragment.params rows = Fragment.params count ∧ plan'.countStatement = some count := by
  have planned : dueFirst.plan.isOk = true ∧ howMany.plan.isOk = true := by decide +kernel
  cases first : dueFirst.plan with
  | error error => simp [first, Except.isOk, Except.toBool] at planned
  | ok plan =>
    cases second : howMany.plan with
    | error error => simp [second, Except.isOk, Except.toBool] at planned
    | ok plan' =>
      obtain ⟨⟨rows, count, condition, order, page, stated, counted, -, -, -, bound, bound'⟩, same⟩ :=
        Chain.rows_and_count first rfl
      exact ⟨plan, plan', rows, count, rfl, rfl, rfl, stated, counted, bound.trans bound'.symm,
        (same howMany plan' second rfl rfl rfl).trans counted⟩

end Invoices

end FluentSql
