import FluentSql.Proofs.Chain.Kind
import FluentSql.Proofs.Chain.Requested
import FluentSql.Proofs.Chain.Values

/-!
# The rows that a statement is about

A caller says by filters which rows a statement is about, and by a limit or a range how many of them.
A select heeds both. The writes heed what they can: an update and a delete have the filters in their
statement, and what else was said is passed over, just as an insert passes over all of it.

Results:
1. `Draft.statement_of_select`, `Draft.statement_of_change`: the statements that have a condition.
2. `Draft.plan_taking_page`, `Draft.plan_taking_filters`: what the writes pass over.
3. `Chain.scope_by_operation`: what a statement has of what was said, by its operation.
-/

namespace FluentSql

namespace Chain

/-- A statement ends with the page that the chain asked for last; a range goes before a limit. -/
structure Pages (chain : Chain) (statement : Fragment) : Prop where
  range : ∀ first last, chain.range? = some (first, last) →
    ∃ before, Fragment.sql statement =
      before ++ (" LIMIT " ++ natText (last - first + 1) ++ " OFFSET " ++ natText first)
  limit : chain.range? = none → ∀ count, chain.limit? = some count →
    ∃ before, Fragment.sql statement = before ++ (" LIMIT " ++ natText count)

/-- A statement has the `WHERE` clause of all filters of the chain. -/
def Filtered (chain : Chain) (statement : Fragment) : Prop :=
  ∃ before condition after,
    (Filter.whereClause chain.table chain.filters).result = .ok condition ∧
      statement = before ++ condition ++ after

end Chain

/-! ## Statements with a condition -/

section

variable {table : Identifier} {selection : Selection} {condition fragment : Fragment}

/-- A select ends with its page. -/
theorem selectClause_eq_ok {order : List OrderKey} {range : Option (Nat × Nat)} {limit : Option Nat}
    (written : (selectClause table selection condition order range limit).result = .ok fragment) :
    ∃ before keys page, (pageClause range limit).result = .ok page ∧
      fragment = before ++ condition ++ keys ++ page := by
  obtain ⟨_, page, sorted, paged, rfl⟩ := Clause.result_append_eq_ok.mp written
  obtain ⟨_, keys, filtered, -, rfl⟩ := Clause.result_append_eq_ok.mp sorted
  obtain ⟨before, _, -, given, rfl⟩ := Clause.result_append_eq_ok.mp filtered
  cases given
  exact ⟨before, keys, page, paged, rfl⟩

theorem deleteClause_eq_ok {returning : String}
    (written : (deleteClause table condition returning).result = .ok fragment) :
    ∃ before after, fragment = before ++ condition ++ after := by
  obtain ⟨_, after, filtered, -, rfl⟩ := Clause.result_append_eq_ok.mp written
  obtain ⟨before, _, -, given, rfl⟩ := Clause.result_append_eq_ok.mp filtered
  cases given
  exact ⟨before, after, rfl⟩

theorem updateClause_eq_ok {row : Row} {returning : String}
    (written : (updateClause table row condition returning).result = .ok fragment) :
    ∃ before after, fragment = before ++ condition ++ after := by
  cases row with
  | nil => cases written
  | cons field rest =>
    obtain ⟨_, after, filtered, -, rfl⟩ := Clause.result_append_eq_ok.mp written
    obtain ⟨before, _, -, given, rfl⟩ := Clause.result_append_eq_ok.mp filtered
    cases given
    exact ⟨before, after, rfl⟩

/-- What ends with a text alone has it at the end of its own text. -/
theorem Fragment.sql_append_text (before : Fragment) (text : String) :
    ∃ start, Fragment.sql (before ++ Fragment.text text) = start ++ text :=
  ⟨_, by rw [Fragment.sql, Fragment.sqlFrom_append, Fragment.sqlFrom_text]⟩

end

namespace Draft

variable {draft : Draft} {chain : Chain} {table : Identifier} {selection : Selection}
  {condition fragment : Fragment}

/-- A select has the condition in it, and its page at the end. -/
theorem statement_of_select
    (written : draft.statement table selection condition = .ok (some fragment))
    (selects : draft.action.operation = .select) :
    ∃ before keys page, (pageClause draft.range draft.limit).result = .ok page ∧
      fragment = before ++ condition ++ keys ++ page := by
  rw [statement] at written
  cases action : draft.action with
  | undecided =>
    rw [action] at written
    obtain ⟨_, found, same⟩ := map_eq_ok_iff.mp written
    cases same
    exact selectClause_eq_ok found
  | select options =>
    rw [action] at written
    dsimp only at written
    split at written
    · cases written
    · obtain ⟨_, found, same⟩ := map_eq_ok_iff.mp written
      cases same
      exact selectClause_eq_ok found
  | _ =>
    rw [action] at selects
    cases selects

/-- An update and a delete have the condition in them. -/
theorem statement_of_change
    (written : draft.statement table selection condition = .ok (some fragment))
    (changes : draft.action.operation = .update ∨ draft.action.operation = .delete) :
    ∃ before after, fragment = before ++ condition ++ after := by
  rw [statement] at written
  cases action : draft.action with
  | update row =>
    rw [action] at written
    obtain ⟨_, found, same⟩ := map_eq_ok_iff.mp written
    cases same
    exact updateClause_eq_ok found
  | delete =>
    rw [action] at written
    obtain ⟨_, found, same⟩ := map_eq_ok_iff.mp written
    cases same
    exact deleteClause_eq_ok found
  | _ =>
    rw [action] at changes
    rcases changes with wrong | wrong <;> cases wrong

/-- What counts has the condition in it. -/
theorem count_eq_some (counts : draft.countStatement table condition = some fragment) :
    ∃ before, fragment = before ++ condition := by
  rw [countStatement] at counts
  cases action : draft.action with
  | select options =>
    rw [action] at counts
    dsimp only at counts
    split at counts <;> cases counts
    exact ⟨_, rfl⟩
  | _ =>
    rw [action] at counts
    cases counts

theorem pages_of_statement (drafted : ofChain chain = .ok draft) {page : Fragment}
    (paged : (pageClause draft.range draft.limit).result = .ok page) (before : Fragment) :
    chain.Pages (before ++ page) := by
  rw [range_ofChain drafted, limit_ofChain drafted] at paged
  constructor
  · intro first last asked
    rw [asked] at paged
    cases paged
    exact Fragment.sql_append_text before _
  · intro unranged count asked
    rw [unranged, asked] at paged
    cases paged
    exact Fragment.sql_append_text before _

/-! ## What the writes pass over -/

variable {kind : CallKind}

/-- A write passes over pages. -/
theorem plan_taking_page (writes : draft.action.operation ≠ .select)
    (paging : kind = .limit ∨ kind = .range) (source : Draft) :
    (draft.taking kind source).plan = draft.plan := by
  rcases draft with ⟨table, action, columns, filters, order, limit, range, demand, target⟩
  cases action with
  | undecided | select => exact absurd rfl writes
  | _ => rcases paging with rfl | rfl <;> rfl

/-- An insert passes over filters, though it looks at them. -/
theorem plan_taking_filters {plan : Plan}
    (inserts : draft.action.operation = .insert ∨ draft.action.operation = .upsert)
    (planned : draft.plan = .ok plan) (table : String) :
    (draft.taking .filter (new table)).plan = .ok { plan with hasFilters := false } := by
  obtain ⟨table, selection, condition, statement, named, parsed, -, written, rfl⟩ :=
    Draft.plan_eq_ok planned
  rcases draft with ⟨name, action, columns, filters, order, limit, range, demand, target⟩
  cases action with
  | insert payload | upsert payload =>
    exact bind_eq_ok_iff.mpr ⟨table, named, bind_eq_ok_iff.mpr ⟨selection, parsed,
      bind_eq_ok_iff.mpr ⟨[], rfl, bind_eq_ok_iff.mpr ⟨statement, written, rfl⟩⟩⟩⟩
  | _ => rcases inserts with wrong | wrong <;> cases wrong

end Draft

/-! ## Chains -/

/-- Where something is written, no select has options. -/
theorem Action.Originates.default_of_write {calls : List Call} {action : Action}
    (originates : Originates calls action) (writes : action.operation ≠ .select) :
    ∀ call ∈ calls, ∀ options ∈ call.extras?, options = .default := by
  cases originates with
  | undecided | select => exact absurd rfl writes
  | @write before after first _ _ split written silent plain =>
    have unselected : first.extras? = none := Call.unselected_of_write (by rw [written]; rfl)
    rw [split]
    refine List.forall_mem_append.mpr ⟨?_, List.forall_mem_cons.mpr ⟨?_, ?_⟩⟩
    · intro earlier listed
      rw [(silent earlier listed).2]
      nofun
    · rw [unselected]
      nofun
    · exact fun later listed => (plain later listed).2

namespace Chain

variable {chain : Chain} {plan : Plan} {fragment : Fragment} {kind : CallKind}

theorem exists_draft_of_plan (planned : chain.plan = .ok plan) :
    ∃ draft, Draft.ofChain chain = .ok draft ∧ draft.plan = .ok plan ∧
      draft.action.operation = plan.operation := by
  obtain ⟨draft, drafted, planned⟩ := Chain.plan_eq_ok planned
  obtain ⟨_, _, _, _, -, -, -, -, rfl⟩ := Draft.plan_eq_ok planned
  exact ⟨draft, drafted, planned, rfl⟩

/-- The plan of a write is the plan of the chain without what it says about pages. -/
theorem plan_without_page (planned : chain.plan = .ok plan) (writes : plan.operation ≠ .select)
    (paging : kind = .limit ∨ kind = .range) : (chain.without kind).plan = .ok plan := by
  obtain ⟨draft, drafted, planned, operation⟩ := exists_draft_of_plan planned
  have apart : kind ≠ .operation := by rcases paging with rfl | rfl <;> nofun
  rw [← operation] at writes
  refine bind_eq_ok_iff.mpr ⟨_, Draft.ofChain_without_of_ok drafted apart, ?_⟩
  rw [Draft.plan_taking_page writes paging, planned]

/-- The plan of an insert is the plan of the chain without its filters, and only says that there were
some. -/
theorem plan_without_filters (planned : chain.plan = .ok plan)
    (inserts : plan.operation = .insert ∨ plan.operation = .upsert) :
    (chain.without .filter).plan = .ok { plan with hasFilters := false } := by
  obtain ⟨draft, drafted, planned, operation⟩ := exists_draft_of_plan planned
  rw [← operation] at inserts
  exact bind_eq_ok_iff.mpr ⟨_, Draft.ofChain_without_of_ok drafted nofun,
    Draft.plan_taking_filters inserts planned _⟩

/-- The chain without what it says about pages. -/
def unpaged (chain : Chain) : Chain := (chain.without .limit).without .range

theorem unpaged_plan (planned : chain.plan = .ok plan) (writes : plan.operation ≠ .select) :
    chain.unpaged.plan = .ok plan :=
  plan_without_page (plan_without_page planned writes (.inl rfl)) writes (.inr rfl)

theorem parts_of_plan (planned : chain.plan = .ok plan) :
    ∃ draft table selection condition, Draft.ofChain chain = .ok draft ∧
      draft.statement table selection condition = .ok plan.statement ∧
      draft.countStatement table condition = plan.countStatement ∧
      draft.action.operation = plan.operation ∧
      (Filter.whereClause chain.table chain.filters).result = .ok condition := by
  obtain ⟨draft, drafted, planned⟩ := Chain.plan_eq_ok planned
  obtain ⟨table, selection, condition, _, named, -, filtered, written, rfl⟩ :=
    Draft.plan_eq_ok planned
  refine ⟨draft, table, selection, condition, drafted, written, rfl, rfl, ?_⟩
  rw [← Draft.filters_ofChain drafted, ← (Draft.tells_ofChain drafted).onTable,
    ← Identifier.name_of_ofName named, filtered]

/-- The main result: what a plan has of the filters and of the page of its chain. A select has all of
it, and its rows are counted under the filters. An update and a delete have the filters and would be
the same without a page. An insert would be the same without any of it. Only options of a select are
refused where something is written. -/
theorem scope_by_operation (planned : chain.plan = .ok plan) :
    (plan.operation = .select →
        (∀ statement ∈ plan.statement, chain.Pages statement ∧ chain.Filtered statement) ∧
        ∀ count ∈ plan.countStatement, chain.Filtered count) ∧
      (plan.operation = .update ∨ plan.operation = .delete →
        (∀ statement ∈ plan.statement, chain.Filtered statement) ∧
        chain.unpaged.plan = .ok plan) ∧
      (plan.operation = .insert ∨ plan.operation = .upsert →
        (chain.unpaged.without .filter).plan = .ok { plan with hasFilters := false }) ∧
      (plan.operation ≠ .select →
        ∀ call ∈ chain.calls, ∀ options ∈ call.extras?, options = .default) := by
  obtain ⟨draft, table, selection, condition, drafted, written, counted, operation, filtered⟩ :=
    parts_of_plan planned
  refine ⟨fun selects => ⟨?_, ?_⟩, fun changes => ⟨?_, ?_⟩, fun inserts => ?_, fun writes => ?_⟩
  · intro fragment stated
    rw [stated] at written
    obtain ⟨before, keys, page, paged, rfl⟩ :=
      Draft.statement_of_select written (operation.trans selects)
    refine ⟨Draft.pages_of_statement drafted paged _, before, condition, keys ++ page, filtered, ?_⟩
    rw [List.append_assoc (before ++ condition)]
  · intro fragment stated
    obtain ⟨before, rfl⟩ := Draft.count_eq_some (counted.trans stated)
    exact ⟨before, condition, [], filtered, (List.append_nil _).symm⟩
  · intro fragment stated
    rw [stated] at written
    rw [← operation] at changes
    obtain ⟨before, after, rfl⟩ := Draft.statement_of_change written changes
    exact ⟨before, condition, after, filtered, rfl⟩
  · refine unpaged_plan planned ?_
    rcases changes with same | same <;> rw [same] <;> nofun
  · refine plan_without_filters (unpaged_plan planned ?_) inserts
    rcases inserts with same | same <;> rw [same] <;> nofun
  · rw [← operation] at writes
    exact (Draft.originates drafted).default_of_write writes

/-- What is shown of the plan of a chain that has a statement: its operation, its text and the
number of its parameters. -/
def compiled (chain : Chain) : Option (Operation × String × Nat) := do
  let plan ← chain.plan.toOption
  let statement ← plan.statement
  some (plan.operation, Fragment.sql statement, (Fragment.params statement).length)

theorem exists_of_compiled {operation : Operation} {sql : String} {count : Nat}
    (shown : chain.compiled = some (operation, sql, count)) :
    ∃ plan fragment, chain.plan = .ok plan ∧ plan.statement = some fragment ∧
      plan.operation = operation ∧ Fragment.sql fragment = sql ∧
      (Fragment.params fragment).length = count := by
  rw [compiled] at shown
  obtain ⟨plan, found, rest⟩ := Option.bind_eq_some_iff.mp shown
  obtain ⟨fragment, stated, same⟩ := Option.bind_eq_some_iff.mp rest
  cases same
  cases planned : chain.plan with
  | error error =>
    rw [planned] at found
    cases found
  | ok own =>
    rw [planned] at found
    cases found
    exact ⟨plan, fragment, rfl, stated, rfl, rfl, rfl⟩

end Chain

/-! ## Carts of which a few are meant -/

namespace Carts

def ofUser : Call := .filter (.compare .eq "user_id" (.int 4))

/-- The second page of the carts of a user. -/
def showing : Chain := ⟨"carts", [.limit 3, .range 10 19, ofUser]⟩

/-- One cart of a user is to be deleted. -/
def deleting : Chain := ⟨"carts", [.delete, ofUser, .limit 1]⟩

/-- A cart is to be added under a condition. -/
def adding : Chain := ⟨"carts", [ofUser, .insert (.ok (.object []))]⟩

theorem compiled_showing : showing.compiled = some (.select,
    "SELECT \"carts\".* FROM \"carts\" WHERE \"carts\".\"user_id\" = $1 LIMIT 10 OFFSET 10",
    1) := by
  decide +kernel

theorem compiled_deleting : deleting.compiled = some (.delete,
    "DELETE FROM \"carts\" WHERE \"carts\".\"user_id\" = $1 RETURNING *", 1) := by
  decide +kernel

theorem compiled_adding : adding.compiled =
    some (.insert, "INSERT INTO \"carts\" DEFAULT VALUES RETURNING *", 0) := by
  decide +kernel

theorem scope_heeded :
    (∃ plan fragment, showing.plan = .ok plan ∧ plan.statement = some fragment ∧
      showing.Pages fragment ∧ showing.Filtered fragment) ∧
    (∃ plan fragment, deleting.plan = .ok plan ∧ plan.statement = some fragment ∧
      deleting.Filtered fragment ∧ deleting.unpaged.plan = .ok plan) ∧
    ∃ plan fragment, adding.plan = .ok plan ∧ plan.statement = some fragment ∧
      (adding.unpaged.without .filter).plan = .ok { plan with hasFilters := false } := by
  obtain ⟨shown, page, planned, stated, selects, -⟩ := Chain.exists_of_compiled compiled_showing
  obtain ⟨deleted, gone, planned', stated', deletes, -⟩ := Chain.exists_of_compiled compiled_deleting
  obtain ⟨added, new, planned'', stated'', inserts, -⟩ := Chain.exists_of_compiled compiled_adding
  have ⟨paged, _⟩ := (Chain.scope_by_operation planned).1 selects
  have ⟨filtered, unpaged⟩ := (Chain.scope_by_operation planned').2.1 (.inr deletes)
  have bare := (Chain.scope_by_operation planned'').2.2.1 (.inl inserts)
  exact ⟨⟨shown, page, planned, stated, paged page stated⟩,
    ⟨deleted, gone, planned', stated', filtered gone stated', unpaged⟩,
    added, new, planned'', stated'', bare⟩

/-- More carts are deleted than were asked for, and one is added whatever its user. -/
theorem scope_dropped :
    (∃ plan fragment, deleting.plan = .ok plan ∧ plan.statement = some fragment ∧
      deleting.limit? = some 1 ∧ ¬ deleting.Pages fragment) ∧
    ∃ plan fragment, adding.plan = .ok plan ∧ plan.statement = some fragment ∧
      adding.filters ≠ [] ∧ ¬ adding.Filtered fragment := by
  obtain ⟨deleted, gone, planned, stated, -, sql, -⟩ := Chain.exists_of_compiled compiled_deleting
  obtain ⟨added, new, planned', stated', -, -, count⟩ := Chain.exists_of_compiled compiled_adding
  refine ⟨⟨deleted, gone, planned, stated, rfl, ?_⟩, added, new, planned', stated', nofun, ?_⟩
  · rintro ⟨-, limited⟩
    obtain ⟨before, ends⟩ := limited rfl 1 rfl
    -- The text would end with the limit, but it ends with a star.
    have last := congrArg (fun text => text.toList.getLast?) (sql.symm.trans ends)
    rw [String.toList_append, List.getLast?_append_of_ne_nil _ (by decide)] at last
    exact absurd last (by decide)
  · rintro ⟨before, condition, after, filtered, rfl⟩
    -- The condition would bind the user, but nothing is bound.
    have bound := Filter.binds_whereClause adding.table adding.filters condition filtered
    rw [Fragment.params_append, Fragment.params_append, bound] at count
    simp [adding, ofUser, Chain.filters, Call.filters, Filter.operands] at count

end Carts

end FluentSql
