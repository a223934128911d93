import Mathlib.Data.Prod.Basic
import FluentSql.Proofs.Chain.Form
import FluentSql.Proofs.Chain.Kind
import FluentSql.Proofs.Chain.Values
import FluentSql.Proofs.Distinct
import FluentSql.Proofs.Sql.Inserted

/-!
# Batches

The rows of a batch may have different columns. The statement of a batch names every column of every
row once, and gives every row a value in each of them, so that nothing is lost and no value comes
into the column of another.

Results:
1. `Row.get?_zip_cells`: a row can be restored from its cells.
2. `Draft.conflictTarget_ofChain`: the last conflict target of a chain counts.
3. `Chain.inserts_all`: the statement of a batch keeps every cell, and an upsert sets every column
   that is no conflict target.
-/

namespace FluentSql

open Sql

/-! ## Columns and cells -/

variable {rows : List Row} {row : Row} {name : String}

theorem mem_columnUnion : name ∈ columnUnion rows ↔ ∃ row ∈ rows, name ∈ row.keys := by
  rw [columnUnion, List.mem_eraseDups, List.mem_flatMap]

theorem columnUnion_ne_nil (columned : rows.flatMap Row.keys ≠ []) : columnUnion rows ≠ [] := by
  rw [columnUnion]
  cases keys : rows.flatMap Row.keys with
  | nil => exact absurd keys columned
  | cons first rest =>
    rw [List.eraseDups_cons]
    exact List.cons_ne_nil _ _

namespace Row

theorem get?_eq_none (absent : name ∉ row.keys) : row.get? name = none := by
  rw [get?, List.lookup_eq_none_iff]
  intro field present
  exact bne_iff_ne.mpr fun same => absent (same ▸ List.mem_map_of_mem present)

theorem get?_zip_cells (row : Row) (columns : List String) (name : String) :
    get? (columns.zip (row.cells columns)) name =
      if name ∈ columns then some ((row.get? name).getD .null) else none := by
  induction columns with
  | nil => rfl
  | cons column rest ih =>
    rw [cells, List.map_cons, List.zip_cons_cons, get?, List.lookup_cons]
    rw [get?, cells] at ih
    by_cases same : name = column
    · subst same
      simp
    · have skipped : (name == column) = false := beq_false_of_ne same
      rw [skipped]
      simp [same, ih]

end Row

/-! ## What a batch keeps -/

/-- An insertion keeps all of the rows that are given, with these bound values. -/
structure Sql.Insertion.Keeps (insertion : Insertion) (given : List Row) (params : List Json) :
    Prop where
  distinct : insertion.columns.Nodup
  /-- The columns are those that some row has. -/
  named : ∀ name, name ∈ insertion.columns.map Identifier.name ↔ ∃ row ∈ given, name ∈ row.keys
  /-- They come in the order in which they first occur, row by row and key by key. -/
  ordered : (insertion.columns.map Identifier.name).Pairwise fun earlier later =>
    (given.flatMap Row.keys).idxOf earlier < (given.flatMap Row.keys).idxOf later
  /-- Under each column a row has its own value, or null. -/
  cells : insertion.rows = given.map fun row =>
    insertion.columns.map fun column => (row.get? column.name).getD .null
  bound : params = insertion.rows.flatten
  count : params.length = given.length * insertion.columns.length
  /-- A row can be restored, up to nulls. -/
  restored : List.Forall₂
    (fun row values => ∀ name,
      (Row.get? ((insertion.columns.map Identifier.name).zip values) name).getD .null =
        (row.get? name).getD .null)
    given insertion.rows

theorem restored_cells (given : List Row) :
    List.Forall₂
      (fun row values => ∀ name, (Row.get? ((columnUnion given).zip values) name).getD .null =
        (row.get? name).getD .null)
      given (given.map (Row.cells (columnUnion given))) := by
  rw [List.forall₂_map_right_iff, List.forall₂_same]
  intro row present name
  rw [Row.get?_zip_cells]
  split
  · rfl
  · rename_i missing
    have absent : name ∉ row.keys := fun keyed => missing (mem_columnUnion.mpr ⟨row, present, keyed⟩)
    rw [Row.get?_eq_none absent]

theorem Sql.Insertion.Inserts.keeps {insertion : Insertion} {table : Identifier}
    {target : Option String} (inserts : insertion.Inserts table rows target) :
    insertion.Keeps rows (cells rows) := by
  have cells_eq : insertion.rows = rows.map fun row =>
      insertion.columns.map fun column => (row.get? column.name).getD .null := by
    rw [inserts.rows, ← inserts.columns]
    refine List.map_congr_left fun row _ => ?_
    rw [Row.cells, List.map_map]
    rfl
  have bound : cells rows = insertion.rows.flatten := by
    rw [inserts.rows, cells, ← columnUnion_eq_rowColumns]
    rfl
  refine ⟨?_, ?_, ?_, cells_eq, bound, ?_, ?_⟩
  · have distinct : (insertion.columns.map Identifier.name).Nodup := by
      rw [inserts.columns]
      exact nodup_eraseDups _
    exact distinct.of_map
  · intro name
    rw [inserts.columns, mem_columnUnion]
  · rw [inserts.columns]
    exact pairwise_eraseDups _
  · rw [bound, cells_eq]
    simp [List.length_flatten, Function.comp_def]
  · rw [inserts.columns, inserts.rows]
    exact restored_cells rows

/-! ## What becomes of conflicts -/

/-- The columns of an insertion are divided into targets of a conflict, which a text lists, and columns
that are set. -/
structure Sql.Conflict.Divides (conflict : Conflict) (columns : List Identifier) (list : String) :
    Prop where
  /-- The targets are the items of the list, without the blanks around them and without empty ones. -/
  targets : conflict.targets.map Identifier.name =
    ((((list.toList.splitOn ',').map trim).filter (!·.isEmpty)).map String.ofList)
  /-- In the order of the columns, each that is no target takes its own value. -/
  taken : conflict.action.assignments =
    (columns.filter (· ∉ conflict.targets)).map fun column => (column, column)
  once : ∀ column ∈ columns,
    column ∈ conflict.targets ∧ (conflict.action.assignments.map Prod.fst).count column = 0 ∨
      column ∉ conflict.targets ∧ (conflict.action.assignments.map Prod.fst).count column = 1
  nothing : conflict.action = .nothing ↔ ∀ column ∈ columns, column ∈ conflict.targets

theorem Sql.Conflict.Updates.divides {conflict : Conflict} {columns : List Identifier} {list : String}
    (updates : conflict.Updates (conflictTargets list)
      (conflictUpdates (columns.map Identifier.name) list))
    (distinct : columns.Nodup) : conflict.Divides columns list := by
  have others : conflictUpdates (columns.map Identifier.name) list =
      (columns.filter (· ∉ conflict.targets)).map Identifier.name := by
    rw [conflictUpdates, ← updates.targets, List.filter_map]
    congr 1
    refine List.filter_congr fun column _ => ?_
    simp [Identifier.name_injective.eq_iff]
  have taken : conflict.action.assignments =
      (columns.filter (· ∉ conflict.targets)).map fun column => (column, column) := by
    have injective := Function.Injective.prodMap Identifier.name_injective Identifier.name_injective
    refine List.map_injective_iff.mpr injective ?_
    rw [updates.assignments, others, List.map_map, List.map_map]
    rfl
  have set_eq : conflict.action.assignments.map Prod.fst = columns.filter (· ∉ conflict.targets) := by
    rw [taken, List.map_map]
    exact List.map_id _
  refine ⟨updates.targets, taken, ?_, ?_⟩
  · intro column present
    rw [set_eq]
    by_cases target : column ∈ conflict.targets
    · exact .inl ⟨target, List.count_eq_zero.mpr (by simp [target])⟩
    · refine .inr ⟨target, ?_⟩
      exact List.count_eq_one_of_mem (distinct.filter _) (by simp [target, present])
  · rw [updates.nothing, others, List.map_eq_nil_iff, List.filter_eq_nil_iff]
    simp

/-! ## The calls of a chain -/

/-- The conflict target that a call gives. -/
def Call.conflictList? : Call → Option String
  | .onConflict columns => some columns
  | _ => none

/-- The conflict target of a chain: the last that is given, or the column `id`. -/
def Chain.conflictList (chain : Chain) : String :=
  ((chain.calls.filterMap Call.conflictList?).getLast?).getD "id"

namespace Draft

variable {draft next : Draft} {call : Call}

/-- The step lemma: a call that gives a conflict target replaces the one before it. -/
theorem conflictTarget_call (called : draft.call call = .ok next) :
    next.conflictTarget = call.conflictList?.or draft.conflictTarget := by
  cases call with
  | onConflict =>
    cases called
    rfl
  | _ =>
    rw [eq_taking_of_call called]
    rfl

/-- The run lemma. -/
theorem conflictTarget_ofChain {chain : Chain} (drafted : ofChain chain = .ok draft) :
    draft.conflictTarget = (chain.calls.filterMap Call.conflictList?).getLast? :=
  last_ofChain (fun _ _ _ called => conflictTarget_call called) (fun _ => rfl) drafted

end Draft

/-! ## The statement of a batch -/

theorem Draft.insertStatement_eq_ok {table : Identifier} {payload : Payload}
    {target : Option String} {returning : String} {statement : Option Fragment}
    (nonempty : payload.rows ≠ [])
    (written : insertStatement table payload target returning = .ok statement) :
    ∃ fragment, statement = some fragment ∧
      (insertClause table payload.rows target returning).result = .ok fragment := by
  rw [insertStatement] at written
  split at written
  · rename_i none
    exact absurd none nonempty
  · obtain ⟨fragment, found, rfl⟩ := map_eq_ok_iff.mp written
    exact ⟨fragment, rfl, found⟩

/-- What is read of the statement that inserts a batch. -/
theorem Draft.insertStatement_keeps {table : Identifier} {payload : Payload}
    {target : Option String} {returning : String} {statement : Option Fragment}
    (columned : payload.rows.flatMap Row.keys ≠ [])
    (written : insertStatement table payload target returning = .ok statement) :
    ∃ fragment text tokens insertion, statement = some fragment ∧
      Fragment.sql fragment = text ++ " RETURNING " ++ returning ∧
      tokenise text = some tokens ∧
      Insertion.read (Fragment.params fragment) tokens = some insertion ∧
      insertion.table = table ∧ insertion.Keeps payload.rows (Fragment.params fragment) ∧
      SettlesConflicts (insertion.columns.map Identifier.name) target insertion.conflict := by
  have nonempty : payload.rows ≠ [] := by
    intro none
    rw [none] at columned
    exact columned rfl
  obtain ⟨fragment, rfl, found⟩ := insertStatement_eq_ok nonempty written
  obtain ⟨text, tokens, insertion, split, spelled, read, inserts⟩ :=
    insertClause_eq_ok (columnUnion_ne_nil columned) found
  have keeps := inserts.keeps
  rw [← binds_insertClause table payload.rows target returning fragment found] at keeps
  refine ⟨fragment, text, tokens, insertion, rfl, split, spelled, read, inserts.table, keeps, ?_⟩
  rw [inserts.columns]
  exact inserts.conflict

/-- The statement of a chain with a batch inserts its rows; only an upsert has a conflict target. -/
theorem Chain.insertStatement_of_mem {chain : Chain} {plan : Plan} (planned : chain.plan = .ok plan)
    {call : Call} (listed : call ∈ chain.calls) {input : Input}
    (inserts : call = .insert input ∨ call = .upsert input) :
    ∃ payload target returning, payload.rows = inputRows input ∧
      Draft.insertStatement plan.table payload target returning = .ok plan.statement ∧
      (call = .insert input → target = none) ∧
      (call = .upsert input → target = some chain.conflictList) := by
  obtain ⟨draft, drafted, planned⟩ := Chain.plan_eq_ok planned
  obtain ⟨table, selection, condition, statement, -, -, -, written, rfl⟩ :=
    Draft.plan_eq_ok planned
  have originates := Draft.originates drafted
  have target := Draft.conflictTarget_ofChain drafted
  rcases inserts with rfl | rfl
  · obtain ⟨payload, handed, decided⟩ := map_eq_ok_iff.mp (originates.action_of_mem listed rfl)
    rw [Draft.statement, ← decided] at written
    exact ⟨payload, none, _, Payload.rows_ofInput handed, written, fun _ => rfl, by rintro ⟨⟩⟩
  · obtain ⟨payload, handed, decided⟩ := map_eq_ok_iff.mp (originates.action_of_mem listed rfl)
    rw [Draft.statement, ← decided, target] at written
    exact ⟨payload, _, _, Payload.rows_ofInput handed, written, by rintro ⟨⟩, fun _ => rfl⟩

/-- The main result, on rows of which one at least has a column. The statement that inserts them is
read as an insertion that keeps every cell of every row. An upsert divides its columns into targets
of a conflict and columns that are set, and an insert says nothing of conflicts. -/
theorem Chain.inserts_all {chain : Chain} {plan : Plan} (planned : chain.plan = .ok plan)
    {call : Call} (listed : call ∈ chain.calls) {input : Input}
    (inserts : call = .insert input ∨ call = .upsert input)
    (columned : (inputRows input).flatMap Row.keys ≠ []) :
    ∃ fragment text returning tokens insertion, plan.statement = some fragment ∧
      Fragment.sql fragment = text ++ " RETURNING " ++ returning ∧
      tokenise text = some tokens ∧
      Insertion.read (Fragment.params fragment) tokens = some insertion ∧
      insertion.table = plan.table ∧
      insertion.Keeps (inputRows input) (Fragment.params fragment) ∧
      (call = .insert input → insertion.conflict = none) ∧
      (call = .upsert input → ∃ conflict, insertion.conflict = some conflict ∧
        conflict.Divides insertion.columns chain.conflictList) := by
  obtain ⟨payload, target, returning, rows_eq, written, untargeted, targeted⟩ :=
    Chain.insertStatement_of_mem planned listed inserts
  rw [← rows_eq] at columned ⊢
  obtain ⟨fragment, text, tokens, insertion, stated, split, spelled, read, onTable, keeps, settles⟩ :=
    Draft.insertStatement_keeps columned written
  refine ⟨fragment, text, returning, tokens, insertion, stated, split, spelled, read, onTable, keeps,
    fun inserted => ?_, fun upserted => ?_⟩
  · rw [untargeted inserted] at settles
    exact settles
  · rw [targeted upserted] at settles
    obtain ⟨conflict, said, updates⟩ := settles
    exact ⟨conflict, said, updates.divides keeps.distinct⟩

/-! ## Stock of which little is known -/

namespace Stock

/-- Two articles with different columns. -/
def articles : List Row :=
  [[("sku", .string "A 1"), ("shelf", .int 4)], [("price", .int 30), ("sku", .string "B 2")]]

def call : Call := .upsert (.ok (.array (articles.map .object)))

def chain : Chain := ⟨"stock", [.onConflict "price", call, .onConflict " shelf, ,sku,"]⟩

/-- Only the price is set, since the last conflict target counts. -/
theorem articles_inserted :
    ∃ plan fragment text returning tokens insertion conflict, chain.plan = .ok plan ∧
      plan.statement = some fragment ∧
      Fragment.sql fragment = text ++ " RETURNING " ++ returning ∧
      tokenise text = some tokens ∧
      Insertion.read (Fragment.params fragment) tokens = some insertion ∧
      insertion.Keeps articles (Fragment.params fragment) ∧
      insertion.conflict = some conflict ∧ conflict.Divides insertion.columns " shelf, ,sku," ∧
      conflict.targets.map Identifier.name = ["shelf", "sku"] := by
  have checked : chain.plan.toBool = true := by decide +kernel
  cases planned : chain.plan with
  | error error =>
    rw [planned] at checked
    cases checked
  | ok plan =>
    have listed : call ∈ chain.calls := by simp [chain]
    have columned : (inputRows (.ok (.array (articles.map .object)))).flatMap Row.keys ≠ [] := by
      decide
    obtain ⟨fragment, text, returning, tokens, insertion, stated, split, spelled, read, -, keeps, -,
      settles⟩ := Chain.inserts_all planned listed (.inr rfl) columned
    obtain ⟨conflict, said, divides⟩ := settles rfl
    exact ⟨plan, fragment, text, returning, tokens, insertion, conflict, rfl, stated, split, spelled,
      read, keeps, said, divides, divides.targets⟩

example : chain.plan.toOption.map Plan.sql =
    some ("INSERT INTO \"stock\" (\"sku\", \"shelf\", \"price\") VALUES ($1, $2, $3), ($4, $5, $6)" ++
      " ON CONFLICT (\"shelf\", \"sku\") DO UPDATE SET \"price\" = EXCLUDED.\"price\" RETURNING *") := by
  decide +kernel

end Stock

end FluentSql
