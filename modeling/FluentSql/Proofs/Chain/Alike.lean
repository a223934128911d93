import FluentSql.Chain.Plan
import FluentSql.Proofs.Statement.Alike

/-!
# Chains that differ in their values

Two chains are alike when they make the same calls and differ only in the values that are compared
with, in the elements of lists of one length, and in the values that are written under the same keys.
The runs of alike chains go in lockstep: each call, each clause and each statement is alike in both,
and so are the plans (`Chain.Alike.plan`).
-/

namespace FluentSql

/-! ## Calls -/

/-- The same keys in the same order. -/
def Row.SameKeys (row row' : Row) : Prop := Row.keys row = Row.keys row'

theorem Row.SameKeys.refl (row : Row) : Row.SameKeys row row := rfl

theorem Row.SameKeys.fields {row row' : Row} (same : Row.SameKeys row row') :
    List.Forall₂ (fun field field' => field.1 = field'.1) row row' := by
  rw [Row.SameKeys, Row.keys, Row.keys, ← List.forall₂_eq_eq_eq, List.forall₂_map_left_iff,
    List.forall₂_map_right_iff] at same
  exact same

/-- One of several values to write: objects with the same keys, or the same value. -/
inductive Json.AlikeItem : Json → Json → Prop
  | same (item : Json) : Json.AlikeItem item item
  | object {row row' : Row} : Row.SameKeys row row' → Json.AlikeItem (.object row) (.object row')

/-- What is to be written: objects with the same keys, arrays of such, or the same input. -/
inductive Input.Alike : Input → Input → Prop
  | same (input : Input) : Input.Alike input input
  | object {row row' : Row} : Row.SameKeys row row' →
      Input.Alike (.ok (.object row)) (.ok (.object row'))
  | array {items items' : List Json} : List.Forall₂ Json.AlikeItem items items' →
      Input.Alike (.ok (.array items)) (.ok (.array items'))

/-- A filter with other values: another operand, or another list of the same length. -/
inductive Filter.Alike : Filter → Filter → Prop
  | same (filter : Filter) : Filter.Alike filter filter
  | compare (comparison : Comparison) (column : String) (value value' : Json) :
      Filter.Alike (.compare comparison column value) (.compare comparison column value')
  | among (column : String) {values values' : List Json} : values.length = values'.length →
      Filter.Alike (.among column values) (.among column values')

/-- A call with other values. -/
inductive Call.Alike : Call → Call → Prop
  | same (call : Call) : Call.Alike call call
  | insert {input input' : Input} : Input.Alike input input' →
      Call.Alike (.insert input) (.insert input')
  | upsert {input input' : Input} : Input.Alike input input' →
      Call.Alike (.upsert input) (.upsert input')
  | update {input input' : Input} : Input.Alike input input' →
      Call.Alike (.update input) (.update input')
  | filter {filter filter' : Filter} : Filter.Alike filter filter' →
      Call.Alike (.filter filter) (.filter filter')
  | matching {pairs pairs' : List (String × Json)} : Row.SameKeys pairs pairs' →
      Call.Alike (.matching pairs) (.matching pairs')

/-- A chain with other values. -/
structure Chain.Alike (chain chain' : Chain) : Prop where
  table : chain.table = chain'.table
  calls : List.Forall₂ Call.Alike chain.calls chain'.calls

/-! ## Filters -/

theorem Test.alike_compare (comparison : Comparison) (value value' : Json) :
    Fragment.Alike (Test.compare comparison value).suffix (Test.compare comparison value').suffix :=
  (Fragment.Alike.refl _).append (.bound value value')

theorem Test.alike_among {values values' : List Json} (same : values.length = values'.length) :
    Fragment.Alike (Test.among values).suffix (Test.among values').suffix :=
  ((Fragment.Alike.refl _).append (.boundList same)).append (.refl _)

namespace Filter

theorem alike_testClause (table column : String) {test test' : Test}
    (alike : Fragment.Alike test.suffix test'.suffix) :
    Clause.Alike (testClause table column test) (testClause table column test') :=
  (Clause.Alike.refl _).append (.ofFragment alike)

theorem Alike.clause (table : String) {filter filter' : Filter} (alike : Alike filter filter') :
    Clause.Alike (filter.clause table) (filter'.clause table) := by
  cases alike with
  | same filter => exact .refl _
  | compare comparison column value value' =>
    exact alike_testClause table column (Test.alike_compare comparison value value')
  | @among column values values' same =>
    -- Only the empty list is written in another way, and of two lists of one length both are empty.
    cases values with
    | nil =>
      rw [List.eq_nil_of_length_eq_zero same.symm]
      exact .refl _
    | cons value rest =>
      cases values' with
      | nil => cases same
      | cons value' rest' => exact alike_testClause table column (Test.alike_among same)

theorem alike_whereClause (table : String) {filters filters' : List Filter}
    (pairs : List.Forall₂ Alike filters filters') :
    Clause.Alike (whereClause table filters) (whereClause table filters') := by
  cases pairs with
  | nil => exact .refl _
  | cons first others =>
    refine (Clause.Alike.refl _).append (.separated _ ?_)
    rw [List.forall₂_map_left_iff, List.forall₂_map_right_iff]
    exact .cons (first.clause table) (others.imp fun _ _ alike => alike.clause table)

end Filter

/-! ## Payloads -/

/-- Payloads of one shape, whose rows have the same keys. -/
structure Payload.Alike (payload payload' : Payload) : Prop where
  shape : payload.shape = payload'.shape
  rows : List.Forall₂ Row.SameKeys payload.rows payload'.rows

namespace Payload.Alike

theorem refl (payload : Payload) : Payload.Alike payload payload :=
  ⟨rfl, List.forall₂_same.mpr fun row _ => .refl row⟩

theorem rowOfJson {item item' : Json} (alike : Json.AlikeItem item item') :
    Lockstep Row.SameKeys (Payload.rowOfJson item) (Payload.rowOfJson item') := by
  cases alike with
  | same item => exact Lockstep.same Row.SameKeys.refl _
  | object same => exact .ok same

theorem ofInput {input input' : Input} (alike : Input.Alike input input') :
    Lockstep Payload.Alike (Payload.ofInput input) (Payload.ofInput input') := by
  cases alike with
  | same input => exact Lockstep.same refl _
  | object same => exact .ok ⟨rfl, .cons same .nil⟩
  | array pairs =>
    have rows := Lockstep.mapM (pairs.imp fun _ _ alike => rowOfJson alike)
    exact rows.map fun _ _ same => ⟨rfl, same⟩

end Payload.Alike

/-! ## Drafts -/

/-- Actions with other values. -/
inductive Action.Alike : Action → Action → Prop
  | undecided : Action.Alike .undecided .undecided
  | select (options : SelectExtras) : Action.Alike (.select options) (.select options)
  | insert {payload payload' : Payload} : Payload.Alike payload payload' →
      Action.Alike (.insert payload) (.insert payload')
  | upsert {payload payload' : Payload} : Payload.Alike payload payload' →
      Action.Alike (.upsert payload) (.upsert payload')
  | update {row row' : Row} : Row.SameKeys row row' → Action.Alike (.update row) (.update row')
  | delete : Action.Alike .delete .delete

/-- Drafts with other values. -/
structure Draft.Alike (draft draft' : Draft) : Prop where
  table : draft.table = draft'.table
  action : Action.Alike draft.action draft'.action
  columns : draft.columns = draft'.columns
  filters : List.Forall₂ Filter.Alike draft.filters draft'.filters
  order : draft.order = draft'.order
  limit : draft.limit = draft'.limit
  range : draft.range = draft'.range
  demand : draft.demand = draft'.demand
  conflictTarget : draft.conflictTarget = draft'.conflictTarget

namespace Draft

variable {draft draft' : Draft}

theorem alike_write (alike : Alike draft draft') (operation : Operation)
    {action action' : Except Error Action} (actions : Lockstep Action.Alike action action') :
    Lockstep Alike (draft.write operation action) (draft'.write operation action') := by
  have existing := alike.action
  rw [write, write]
  generalize draft.action = does, draft'.action = does' at existing ⊢
  cases existing with
  | undecided => exact actions.map fun _ _ pair => { alike with action := pair }
  | _ => exact .error _

theorem alike_updateAction {input input' : Input} (alike : Input.Alike input input') :
    Lockstep Action.Alike (updateAction input) (updateAction input') := by
  refine (Payload.Alike.ofInput alike).bind ?_
  rintro ⟨shape, rows⟩ ⟨shape', rows'⟩ ⟨same, pairs⟩
  cases same
  cases shape with
  | array => exact .error _
  | object =>
    cases pairs with
    | nil => exact .error _
    | cons first others =>
      cases others with
      | nil => exact .ok (.update first)
      | cons second others => exact .error _

theorem alike_select (alike : Alike draft draft') (columns : String) (options : SelectExtras) :
    Lockstep Alike (draft.select columns options) (draft'.select columns options) := by
  have existing := alike.action
  rw [select, select]
  generalize draft.action = does, draft'.action = does' at existing ⊢
  have kept := existing
  cases existing with
  | undecided | select => exact .ok { alike with action := .select options, columns := rfl }
  | _ =>
    dsimp only
    split
    · exact .ok { alike with action := kept, columns := rfl }
    · exact .error _

theorem alike_setLimit (alike : Alike draft draft') (count : Nat) :
    Lockstep Alike (draft.setLimit count) (draft'.setLimit count) := by
  rw [setLimit, setLimit]
  split
  · exact .error _
  · exact .ok { alike with limit := rfl }

theorem alike_setRange (alike : Alike draft draft') (first last : Nat) :
    Lockstep Alike (draft.setRange first last) (draft'.setRange first last) := by
  rw [setRange, setRange]
  split
  · exact .error _
  · split
    · exact .error _
    · exact .ok { alike with range := rfl }

theorem alike_filters (alike : Alike draft draft') {filters filters' : List Filter}
    (pairs : List.Forall₂ Filter.Alike filters filters') :
    Alike { draft with filters := draft.filters ++ filters }
      { draft' with filters := draft'.filters ++ filters' } :=
  { alike with filters := List.rel_append alike.filters pairs }

/-- The equality filters for pairs of columns and values. -/
theorem alike_matching {pairs pairs' : List (String × Json)} (same : Row.SameKeys pairs pairs') :
    List.Forall₂ Filter.Alike
      (pairs.map fun (column, value) => Filter.compare .eq column value)
      (pairs'.map fun (column, value) => Filter.compare .eq column value) := by
  rw [List.forall₂_map_left_iff, List.forall₂_map_right_iff]
  refine same.fields.imp ?_
  rintro ⟨column, value⟩ ⟨column', value'⟩ rfl
  exact .compare .eq column value value'

/-- The step lemma: alike calls on alike drafts. -/
theorem alike_call (alike : Alike draft draft') {call call' : Call} (calls : Call.Alike call call') :
    Lockstep Alike (draft.call call) (draft'.call call') := by
  cases calls with
  | insert input =>
    exact alike_write alike .insert ((Payload.Alike.ofInput input).map fun _ _ => .insert)
  | upsert input =>
    exact alike_write alike .upsert ((Payload.Alike.ofInput input).map fun _ _ => .upsert)
  | update input => exact alike_write alike .update (alike_updateAction input)
  | filter filter => exact .ok (alike_filters alike (.cons filter .nil))
  | matching pairs => exact .ok (alike_filters alike (alike_matching pairs))
  | same call =>
    cases call with
    | select columns options => exact alike_select alike columns options
    | insert input =>
      exact alike_write alike .insert ((Payload.Alike.ofInput (.same input)).map fun _ _ => .insert)
    | upsert input =>
      exact alike_write alike .upsert ((Payload.Alike.ofInput (.same input)).map fun _ _ => .upsert)
    | update input => exact alike_write alike .update (alike_updateAction (.same input))
    | delete => exact alike_write alike .delete (.ok .delete)
    | onConflict columns => exact .ok { alike with conflictTarget := rfl }
    | filter filter => exact .ok (alike_filters alike (.cons (.same filter) .nil))
    | matching pairs => exact .ok (alike_filters alike (alike_matching (.refl pairs)))
    | order key => exact .ok { alike with order := congrArg (· ++ [key]) alike.order }
    | limit count => exact alike_setLimit alike count
    | range first last => exact alike_setRange alike first last
    | one => exact .ok { alike with demand := rfl }
    | atMostOne => exact .ok { alike with demand := rfl }

/-- The run lemma: alike chains. -/
theorem alike_ofChain {chain chain' : Chain} (alike : Chain.Alike chain chain') :
    Lockstep Alike (Draft.ofChain chain) (Draft.ofChain chain') := by
  have start : Alike (new chain.table) (new chain'.table) :=
    ⟨alike.table, .undecided, rfl, .nil, rfl, rfl, rfl, rfl, rfl⟩
  exact Lockstep.foldlM alike.calls (fun _ _ _ _ drafts calls => alike_call drafts calls) _ _ start

end Draft

/-! ## Clauses -/

/-- The columns of rows with the same keys. -/
theorem columnUnion_eq {rows rows' : List Row} (same : List.Forall₂ Row.SameKeys rows rows') :
    columnUnion rows = columnUnion rows' := by
  have keys : rows.flatMap Row.keys = rows'.flatMap Row.keys := by
    induction same with
    | nil => rfl
    | cons first _ ih => rw [List.flatMap_cons, List.flatMap_cons, first, ih]
  rw [columnUnion, columnUnion, keys]

theorem alike_valuesTuple (columns : List String) (row row' : Row) :
    Clause.Alike (valuesTuple columns row) (valuesTuple columns row') := by
  have values : (columns.map fun column => (row.get? column).getD .null).length =
      (columns.map fun column => (row'.get? column).getD .null).length := by
    rw [List.length_map, List.length_map]
  exact ((Clause.Alike.refl _).append (.ofFragment (.boundList values))).append (.refl _)

theorem alike_valuesClause (columns : List String) {rows rows' : List Row}
    (same : List.Forall₂ Row.SameKeys rows rows') :
    Clause.Alike (valuesClause columns rows) (valuesClause columns rows') := by
  cases columns with
  | nil =>
    rw [valuesClause, valuesClause, same.length_eq]
    exact .refl _
  | cons column columns =>
    refine (Clause.Alike.refl _).append (.separated _ ?_)
    rw [List.forall₂_map_left_iff, List.forall₂_map_right_iff]
    exact same.imp fun row row' _ => alike_valuesTuple _ row row'

theorem alike_insertClause (table : Identifier) {rows rows' : List Row} (target : Option String)
    (returning : String) (same : List.Forall₂ Row.SameKeys rows rows') :
    Clause.Alike (insertClause table rows target returning)
      (insertClause table rows' target returning) := by
  unfold insertClause
  rw [columnUnion_eq same]
  have written := (Clause.Alike.refl (.text ("INSERT INTO " ++ table.sql))).append
    (alike_valuesClause (columnUnion rows') same)
  exact (written.append (.refl _)).append (.refl _)

theorem alike_assignmentClause (column : String) (value value' : Json) :
    Clause.Alike (assignmentClause (column, value)) (assignmentClause (column, value')) :=
  (Clause.Alike.refl _).append (.ofFragment (.bound value value'))

theorem alike_updateClause (table : Identifier) {row row' : Row} {condition condition' : Fragment}
    (returning : String) (same : Row.SameKeys row row')
    (alike : Fragment.Alike condition condition') :
    Clause.Alike (updateClause table row condition returning)
      (updateClause table row' condition' returning) := by
  have assignments : List.Forall₂ Clause.Alike (row.map assignmentClause)
      (row'.map assignmentClause) := by
    rw [List.forall₂_map_left_iff, List.forall₂_map_right_iff]
    refine same.fields.imp ?_
    rintro ⟨column, value⟩ ⟨column', value'⟩ rfl
    exact alike_assignmentClause column value value'
  cases same.fields with
  | nil => exact .refl _
  | cons first others =>
    have written := (Clause.Alike.refl (.text ("UPDATE " ++ table.sql ++ " SET "))).append
      (.separated ", " assignments)
    exact (written.append (.ofFragment alike)).append (.refl _)

theorem alike_selectClause (table : Identifier) (selection : Selection)
    {condition condition' : Fragment} (order : List OrderKey) (range : Option (Nat × Nat))
    (limit : Option Nat) (alike : Fragment.Alike condition condition') :
    Clause.Alike (selectClause table selection condition order range limit)
      (selectClause table selection condition' order range limit) :=
  (((Clause.Alike.refl _).append (.ofFragment alike)).append (.refl _)).append (.refl _)

theorem alike_deleteClause (table : Identifier) {condition condition' : Fragment}
    (returning : String) (alike : Fragment.Alike condition condition') :
    Clause.Alike (deleteClause table condition returning)
      (deleteClause table condition' returning) :=
  ((Clause.Alike.refl _).append (.ofFragment alike)).append (.refl _)

/-! ## Plans -/

/-- Plans that are equal but for the values their statements bind. -/
structure Plan.Alike (plan plan' : Plan) : Prop where
  table : plan.table = plan'.table
  operation : plan.operation = plan'.operation
  selection : plan.selection = plan'.selection
  statement : Option.Rel Fragment.Alike plan.statement plan'.statement
  countStatement : Option.Rel Fragment.Alike plan.countStatement plan'.countStatement
  demand : plan.demand = plan'.demand
  input : plan.input = plan'.input
  hasFilters : plan.hasFilters = plan'.hasFilters

theorem Action.Alike.operation {action action' : Action} (alike : Action.Alike action action') :
    action.operation = action'.operation := by
  cases alike <;> rfl

namespace Draft

variable {draft draft' : Draft}

theorem payloadForm_eq {action action' : Action} (alike : Action.Alike action action') :
    payloadForm action = payloadForm action' := by
  cases alike with
  | insert payload => exact congrArg some payload.shape
  | upsert payload => exact congrArg some payload.shape
  | _ => rfl

/-- A clause as the statement of a plan. -/
theorem alike_some {clause clause' : Clause} (alike : Clause.Alike clause clause') :
    Lockstep (Option.Rel Fragment.Alike) (clause.result.map some) (clause'.result.map some) :=
  Lockstep.map alike fun _ _ => .some

theorem alike_insertStatement (table : Identifier) {payload payload' : Payload}
    (target : Option String) (returning : String) (alike : Payload.Alike payload payload') :
    Lockstep (Option.Rel Fragment.Alike) (insertStatement table payload target returning)
      (insertStatement table payload' target returning) := by
  rw [insertStatement, insertStatement]
  have rows := alike.rows
  generalize payload.rows = rows, payload'.rows = rows' at rows ⊢
  cases rows with
  | nil => exact .ok .none
  | cons first others =>
    exact alike_some (alike_insertClause table target returning (.cons first others))

theorem alike_statement (alike : Alike draft draft') (table : Identifier) (selection : Selection)
    {condition condition' : Fragment} (conditions : Fragment.Alike condition condition') :
    Lockstep (Option.Rel Fragment.Alike) (draft.statement table selection condition)
      (draft'.statement table selection condition') := by
  have rows := alike_some
    (alike_selectClause table selection draft.order draft.range draft.limit conditions)
  have action := alike.action
  unfold statement
  rw [← alike.columns, ← alike.order, ← alike.range, ← alike.limit, ← alike.conflictTarget]
  generalize draft.action = does, draft'.action = does' at action ⊢
  cases action with
  | undecided => exact rows
  | select options =>
    dsimp only
    split
    · exact .ok .none
    · exact rows
  | insert payload | upsert payload => exact alike_insertStatement table _ _ payload
  | update same => exact alike_some (alike_updateClause table _ same conditions)
  | delete => exact alike_some (alike_deleteClause table _ conditions)

theorem alike_countStatement (alike : Alike draft draft') (table : Identifier)
    {condition condition' : Fragment} (conditions : Fragment.Alike condition condition') :
    Option.Rel Fragment.Alike (draft.countStatement table condition)
      (draft'.countStatement table condition') := by
  have action := alike.action
  unfold countStatement
  generalize draft.action = does, draft'.action = does' at action ⊢
  cases action with
  | select options =>
    dsimp only
    split
    · exact .some ((Fragment.Alike.refl _).append conditions)
    · exact .none
  | _ => exact .none

theorem alike_plan (alike : Alike draft draft') :
    Lockstep Plan.Alike draft.plan draft'.plan := by
  rw [plan, plan, ← alike.table, ← alike.columns]
  refine (Lockstep.same (fun _ => rfl) _).bind ?_
  rintro table _ rfl
  refine (Lockstep.same (fun _ => rfl) _).bind ?_
  rintro selection _ rfl
  refine (Filter.alike_whereClause table.name alike.filters).bind ?_
  intro condition condition' conditions
  refine (alike_statement alike table selection conditions).bind ?_
  intro statement statement' statements
  have filtered : draft.filters.isEmpty = draft'.filters.isEmpty := by
    rw [Bool.eq_iff_iff, List.isEmpty_iff_length_eq_zero, List.isEmpty_iff_length_eq_zero,
      alike.filters.length_eq]
  exact .ok ⟨rfl, alike.action.operation, rfl, statements,
    alike_countStatement alike table conditions, alike.demand, payloadForm_eq alike.action,
    congrArg Bool.not filtered⟩

end Draft

/-- Alike chains are planned in lockstep. -/
theorem Chain.Alike.plan {chain chain' : Chain} (alike : Chain.Alike chain chain') :
    Lockstep Plan.Alike chain.plan chain'.plan := by
  rw [Chain.plan, Chain.plan]
  exact (Draft.alike_ofChain alike).bind fun _ _ => Draft.alike_plan

end FluentSql
