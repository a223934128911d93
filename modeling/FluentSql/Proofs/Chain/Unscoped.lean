import FluentSql.Proofs.Chain.Plan
import FluentSql.Proofs.Run.PairedRun
import FluentSql.Proofs.Sql.Inserted
import FluentSql.Proofs.Sql.Statements
import FluentSql.Scripted.Client

/-!
# Writes that no filter restricts

An update or a delete without a filter is about every row of its table. Its statement has no `WHERE`
clause, and there is a warning before it is sent. That the plan has filters, that the statement has
the clause, and that there is no warning come to the same.

Results:
1. `Draft.hasFilters_iff`: which statements have a `WHERE` clause.
2. `Unwarned.run`: runs without a warning.
3. `Chain.unscoped_write_noticed`: a write is warned of just when it is about every row.
-/

namespace FluentSql

open Sql

variable {σ α β : Type}

/-! ## The word `WHERE` -/

theorem Sql.whereToken_not_mem_of_isNaming {tokens : List Token}
    (naming : ∀ token ∈ tokens, token.isNaming = true) : whereToken ∉ tokens :=
  fun present => nomatch naming whereToken present

theorem Sql.Separated.whereToken_not_mem {items : List α} {tokens : List Token}
    (separated : Separated (fun _ tokens => whereToken ∉ tokens) items tokens) :
    whereToken ∉ tokens := by
  induction separated with
  | one lacks => exact lacks
  | more lacks _ ih => exact List.not_mem_append lacks (List.not_mem_cons_of_ne_of_not_mem nofun ih)

/-- A text that spells no `WHERE`, and no placeholder. -/
def Sql.Unscoped (before : Edge) (text : List Char) (after : Edge) : Prop :=
  ∃ tokens, Spells before text tokens after ∧ placeholders tokens = [] ∧ whereToken ∉ tokens

namespace Sql.Unscoped

variable {before middle after : Edge} {first second text : List Char}

theorem append (left : Unscoped before first middle) (right : Unscoped middle second after) :
    Unscoped before (first ++ second) after := by
  obtain ⟨tokens, spelled, unbound, lacks⟩ := left
  obtain ⟨tokens', spelled', unbound', lacks'⟩ := right
  refine ⟨tokens ++ tokens', spelled.append spelled', ?_, List.not_mem_append lacks lacks'⟩
  rw [placeholders_append, unbound, unbound', List.append_nil]

theorem words (tokens : List Token) (spelling : isSpelling before text tokens after = true)
    (lacks : whereToken ∉ tokens) : Unscoped before text after :=
  ⟨tokens, (spells_of_isSpelling spelling).1, (spells_of_isSpelling spelling).2, lacks⟩

theorem names (spells : SpellsNames before text after) : Unscoped before text after := by
  obtain ⟨tokens, spelled, naming⟩ := spells
  exact ⟨tokens, spelled, placeholders_of_isNaming naming, whereToken_not_mem_of_isNaming naming⟩

end Sql.Unscoped

/-- A clause that is written without the word `WHERE`. -/
def Clause.Unscoped (before : Edge) (clause : Clause) (after : Edge) : Prop :=
  Clause.Means before clause after fun _ tokens => whereToken ∉ tokens

/-- A clause in which the word `WHERE` is just where there are filters. -/
def Clause.ScopedBy (filters : List Filter) (before : Edge) (clause : Clause) (after : Edge) : Prop :=
  Clause.Means before clause after fun _ tokens => whereToken ∈ tokens ↔ filters ≠ []

namespace Clause

variable {before middle after : Edge} {first second clause : Clause} {filters : List Filter}

theorem Unscoped.append (left : Unscoped before first middle) (right : Unscoped middle second after) :
    Unscoped before (first ++ second) after :=
  Means.append left right fun _ _ _ => List.not_mem_append

theorem unscoped_text {sql : String} (unscoped : Sql.Unscoped before sql.toList after) :
    Unscoped before (text sql) after := by
  obtain ⟨tokens, spelled, unbound, lacks⟩ := unscoped
  exact means_ofFragment ((Fragment.means_text spelled unbound).imp fun _ _ same => same ▸ lacks)

theorem ScopedBy.behind (limited : ScopedBy filters middle clause after)
    (left : Unscoped before first middle) : ScopedBy filters before (first ++ clause) after := by
  refine Means.append left limited fun _ tokens tokens' lacks scopes => ?_
  rw [List.mem_append, ← scopes]
  exact or_iff_right lacks

theorem ScopedBy.followed (limited : ScopedBy filters before clause middle)
    (right : Unscoped middle second after) : ScopedBy filters before (clause ++ second) after := by
  refine Means.append limited right fun _ tokens tokens' scopes lacks => ?_
  rw [List.mem_append, ← scopes]
  exact or_iff_left lacks

end Clause

/-! ## Updates and deletes -/

section

variable {condition : Fragment} {filters : List Filter} {returning : String}

theorem unscoped_assignmentClause (assignment : String × Json) :
    Clause.Unscoped .clear (assignmentClause assignment) .token := by
  have column : Clause.Unscoped .clear (Clause.ident assignment.1) .token := by
    refine (Clause.means_ident assignment.1).imp ?_
    rintro _ _ ⟨_, _, rfl⟩
    exact whereToken_not_mem_of_isNaming (List.forall_mem_singleton.mpr rfl)
  have equals : Clause.Unscoped .token (.text " = ") .clear :=
    Clause.unscoped_text (.words [equalsToken] (by decide) (by decide))
  have value : Clause.Unscoped .clear (.bound assignment.2) .token := by
    refine (Clause.means_ofFragment (Fragment.means_bound assignment.2)).imp ?_
    rintro _ _ ⟨_, rfl, _⟩
    simp [whereToken, wordToken]
  exact (column.append equals).append value

theorem unscoped_returningClause (columns : SpellsNames .clear returning.toList .token) :
    Clause.Unscoped .token (returningClause returning) .token := by
  have word : Sql.Unscoped .token " RETURNING ".toList .clear :=
    .words [wordToken "RETURNING" (by decide)] (by decide) (by decide)
  refine Clause.unscoped_text ?_
  rw [String.toList_append]
  exact word.append (.names columns)

/-- The condition of filters has the word `WHERE` just where there are filters. -/
theorem scopedBy_condition {table : String}
    (filtered : (Filter.whereClause table filters).result = .ok condition) :
    Clause.ScopedBy filters .token (.ofFragment condition) .token := by
  by_cases unfiltered : filters = []
  · rw [unfiltered] at filtered ⊢
    cases filtered
    refine Clause.means_empty.imp ?_
    rintro _ _ rfl
    simp
  · obtain ⟨_, _, -, -, means⟩ := Filter.means_whereClause unfiltered filtered
    refine (Clause.means_ofFragment means).imp ?_
    rintro _ _ ⟨rest, rfl, -⟩
    exact iff_of_true List.mem_cons_self unfiltered

theorem scopedBy_updateClause (table : Identifier) (row : Row)
    (limited : Clause.ScopedBy filters .token (.ofFragment condition) .token)
    (columns : SpellsNames .clear returning.toList .token) :
    Clause.ScopedBy filters .clear (updateClause table row condition returning) .token := by
  unfold updateClause
  split
  · exact Clause.means_fail _
  · rename_i nonempty
    have update : Sql.Unscoped .clear "UPDATE ".toList .clear :=
      .words [wordToken "UPDATE" (by decide)] (by decide) (by decide)
    have set : Sql.Unscoped .token " SET ".toList .clear :=
      .words [wordToken "SET" (by decide)] (by decide) (by decide)
    have head : Clause.Unscoped .clear (.text ("UPDATE " ++ table.sql ++ " SET ")) .clear := by
      refine Clause.unscoped_text ?_
      rw [String.toList_append, String.toList_append]
      exact (update.append (.names (.name table))).append set
    have assignments : Clause.Unscoped .clear (.separated ", " (row.map assignmentClause)) .token :=
      (Clause.means_separated unscoped_assignmentClause nonempty).imp
        fun _ _ separated => separated.whereToken_not_mem
    exact (limited.behind (head.append assignments)).followed (unscoped_returningClause columns)

theorem scopedBy_deleteClause (table : Identifier)
    (limited : Clause.ScopedBy filters .token (.ofFragment condition) .token)
    (columns : SpellsNames .clear returning.toList .token) :
    Clause.ScopedBy filters .clear (deleteClause table condition returning) .token := by
  have words : Sql.Unscoped .clear "DELETE FROM ".toList .clear :=
    .words [wordToken "DELETE" (by decide), wordToken "FROM" (by decide)] (by decide) (by decide)
  have head : Clause.Unscoped .clear (.text ("DELETE FROM " ++ table.sql)) .token := by
    refine Clause.unscoped_text ?_
    rw [String.toList_append]
    exact words.append (.names (.name table))
  exact (limited.behind head).followed (unscoped_returningClause columns)

end

namespace Draft

variable {draft : Draft}

/-- The clause that the statement of an update or a delete comes from. -/
theorem exists_scopedBy {table : Identifier} {selection : Selection} {condition : Fragment}
    {statement : Option Fragment} (written : draft.statement table selection condition = .ok statement)
    (filtered : (Filter.whereClause table.name draft.filters).result = .ok condition)
    (changes : draft.action.operation = .update ∨ draft.action.operation = .delete)
    (plain : selection.columns.all isPlainColumn = true) :
    ∃ (clause : Clause) (fragment : Fragment), statement = some fragment ∧
      clause.result = .ok fragment ∧ clause.ScopedBy draft.filters .clear .token := by
  have limited := scopedBy_condition filtered
  have columns : SpellsNames .clear
      (if draft.columns.isSome then selection.columnListSql table else "*").toList .token := by
    split
    · exact selection.spells_columnListSql table plain
    · exact .marks (by decide : isSpelling .clear "*".toList [.mark .star] .token = true) rfl
  rw [Draft.statement] at written
  cases action : draft.action with
  | update row =>
    rw [action] at written
    obtain ⟨fragment, found, rfl⟩ := map_eq_ok_iff.mp written
    exact ⟨_, fragment, rfl, found, scopedBy_updateClause table row limited columns⟩
  | delete =>
    rw [action] at written
    obtain ⟨fragment, found, rfl⟩ := map_eq_ok_iff.mp written
    exact ⟨_, fragment, rfl, found, scopedBy_deleteClause table limited columns⟩
  | _ =>
    rw [action] at changes
    rcases changes with wrong | wrong <;> cases wrong

/-- The statement of an update or a delete has a `WHERE` clause just where there are filters. -/
theorem hasFilters_iff {plan : Plan} (planned : draft.plan = .ok plan)
    (changes : plan.operation = .update ∨ plan.operation = .delete)
    (plain : plan.selection.columns.all isPlainColumn = true) :
    ∃ statement tokens, plan.statement = some statement ∧
      tokenise (Fragment.sql statement) = some tokens ∧
      (plan.hasFilters = true ↔ whereToken ∈ tokens) := by
  obtain ⟨table, selection, condition, statement, -, -, filtered, written, rfl⟩ :=
    Draft.plan_eq_ok planned
  obtain ⟨clause, fragment, rfl, found, means⟩ := exists_scopedBy written filtered changes plain
  obtain ⟨tokens, spelled, -, scopes⟩ := means fragment found [] []
  refine ⟨fragment, tokens, rfl, spelled.tokenise, ?_⟩
  rw [scopes]
  cases draft.filters <;> simp

end Draft

/-! ## Runs -/

/-- The event warns of a write that no filter restricts. -/
def Event.isUnscopedWrite : Event → Bool
  | .unscopedWrite .. => true
  | _ => false

/-- The work logs no such warning. -/
def Unwarned (work : InSession σ α) : Prop :=
  ∀ session, ∃ logged, (work session).2.events = session.events ++ logged ∧
    ∀ event ∈ logged, event.isUnscopedWrite = false

namespace Unwarned

variable {runner : Runner σ}

theorem pure (value : α) : Unwarned (Pure.pure value : InSession σ α) :=
  fun _ => ⟨[], (List.append_nil _).symm, List.forall_mem_nil _⟩

theorem bind {work : InSession σ α} {next : α → InSession σ β} (first : Unwarned work)
    (later : ∀ value, Unwarned (next value)) : Unwarned (work >>= next) := by
  intro session
  obtain ⟨logged, events, silent⟩ := first session
  obtain ⟨logged', events', silent'⟩ := later (work session).1 (work session).2
  refine ⟨logged ++ logged', ?_, List.forall_mem_append.mpr ⟨silent, silent'⟩⟩
  rw [InSession.bind_eq, events', events, List.append_assoc]

theorem log {event : Event} (other : event.isUnscopedWrite = false) :
    Unwarned (logEvent event : InSession σ Unit) :=
  fun _ => ⟨[event], rfl, List.forall_mem_singleton.mpr other⟩

theorem fetch (runner : Runner σ) (fragment : Fragment) : Unwarned (runner.fetch fragment).run := by
  intro session
  rw [Runner.run_fetch]
  exact ⟨[_], rfl, List.forall_mem_singleton.mpr rfl⟩

theorem paired (runner : Runner σ) :
    Paired (fun work (_ : InSession σ _) => Unwarned work) runner runner fun _ => True where
  pure := pure
  bind := bind
  convention := rfl
  logs event step := log (by cases event <;> first | rfl | cases step)
  sends _ _ _ _ _ fragment _ _ := fetch runner fragment
  inner _ _ _ _ := trivial

/-- A run of a plan that there is no warning for. -/
theorem run {plan : Plan} (unwarned : runner.warns plan = false) : Unwarned (runner.run plan) := by
  refine (paired runner).run ⟨fun _ _ => trivial, fun fragment _ => fetch runner fragment,
    fun fragment _ => fetch runner fragment, ?_⟩
  unfold Runner.warning
  rw [unwarned]
  exact pure _

end Unwarned

/-- Work that takes a first step, then sends a statement, and warns of nothing after the first step.
-/
def Runner.SendsAfter (runner : Runner σ) (first : InSession σ Unit) (statement : Fragment)
    (work : InSession σ Response) : Prop :=
  ∃ rest, work = (first >>= fun _ => (runner.fetch statement).run >>= rest) ∧
    Unwarned ((runner.fetch statement).run >>= rest)

theorem Runner.run_sendsAfter (runner : Runner σ) {plan : Plan}
    (writes : plan.operation.isWrite = true) {statement : Fragment}
    (sends : plan.statement = some statement) :
    runner.SendsAfter (runner.warning plan) statement (runner.run plan) :=
  ⟨runner.afterMain plan, runner.run_of_write writes sends,
    (Unwarned.fetch runner statement).bind ((Unwarned.paired runner).afterMain fun _ _ => trivial)⟩

/-- The main result: the plan of an update or a delete has filters just where its statement has a
`WHERE` clause. Where it has none, and there are to be warnings, a run logs one warning before the
statement is sent. In no other case is there such a warning. -/
theorem Chain.unscoped_write_noticed {chain : Chain} {plan : Plan} (planned : chain.plan = .ok plan)
    (runner : Runner σ) :
    (plan.operation ≠ .update ∧ plan.operation ≠ .delete → Unwarned (runner.run plan)) ∧
    (plan.operation = .update ∨ plan.operation = .delete →
      plan.selection.columns.all isPlainColumn = true →
      ∃ statement tokens, plan.statement = some statement ∧
        tokenise (Fragment.sql statement) = some tokens ∧
        (plan.hasFilters = true ↔ whereToken ∈ tokens) ∧
        (runner.settings.warnUnscopedWrites = true ∧ whereToken ∉ tokens →
          runner.SendsAfter (logEvent (.unscopedWrite plan.table.name plan.operation)) statement
            (runner.run plan)) ∧
        (runner.settings.warnUnscopedWrites = false ∨ whereToken ∈ tokens →
          runner.SendsAfter (pure ()) statement (runner.run plan))) := by
  obtain ⟨draft, -, drafted⟩ := Chain.plan_eq_ok planned
  constructor
  · rintro ⟨noUpdate, noDelete⟩
    exact Unwarned.run (by simp [Runner.warns, noUpdate, noDelete])
  · intro changes plain
    obtain ⟨statement, tokens, sends, read, scopes⟩ := Draft.hasFilters_iff drafted changes plain
    have writes : plan.operation.isWrite = true := by
      rcases changes with same | same <;> rw [same] <;> rfl
    have changing : (plan.operation == .update || plan.operation == .delete) = true := by
      rcases changes with same | same <;> rw [same] <;> rfl
    have opens := runner.run_sendsAfter writes sends
    refine ⟨statement, tokens, sends, read, scopes, ?_, ?_⟩
    · rintro ⟨enabled, lacks⟩
      have unfiltered : plan.hasFilters = false := Bool.eq_false_iff.mpr (mt scopes.mp lacks)
      rw [Runner.warning, Runner.warns, changing, unfiltered, enabled] at opens
      exact opens
    · intro excused
      have unwarned : runner.warns plan = false := by
        rcases excused with disabled | present
        · simp [Runner.warns, disabled]
        · simp [Runner.warns, scopes.mpr present]
      rw [Runner.warning, unwarned] at opens
      exact opens

namespace Orders

/-- Closes all orders, since a filter on no pairs restricts nothing. -/
def closing : Chain :=
  { table := "orders"
    calls := [.update (.ok (.object [("open", .bool false)])), .matching [], .select "*, id" .default] }

theorem closing_noticed :
    ∃ plan statement tokens, closing.plan = .ok plan ∧
      (plan.operation = .update ∨ plan.operation = .delete) ∧
      plan.selection.columns.all isPlainColumn = true ∧ plan.statement = some statement ∧
      tokenise (Fragment.sql statement) = some tokens ∧ whereToken ∉ tokens ∧
      Settings.default.warnUnscopedWrites = true ∧
      Runner.SendsAfter ⟨Client.scripted, .default⟩
        (logEvent (.unscopedWrite plan.table.name plan.operation)) statement
        (Runner.run ⟨Client.scripted, .default⟩ plan) := by
  have checked : closing.plan.toOption.any (fun plan => plan.operation == .update &&
      plan.selection.columns.all isPlainColumn && !plan.hasFilters) = true := by
    decide +kernel
  cases planned : closing.plan with
  | error error =>
    rw [planned] at checked
    cases checked
  | ok plan =>
    rw [planned, Except.toOption, Option.any_some, Bool.and_eq_true, Bool.and_eq_true,
      beq_iff_eq, Bool.not_eq_true'] at checked
    obtain ⟨⟨updates, plain⟩, unfiltered⟩ := checked
    obtain ⟨statement, tokens, sends, read, scopes, noticed, -⟩ :=
      (Chain.unscoped_write_noticed planned ⟨Client.scripted, .default⟩).2 (.inl updates) plain
    have lacks : whereToken ∉ tokens := by
      rw [← scopes, unfiltered]
      decide
    exact ⟨plan, statement, tokens, rfl, .inl updates, plain, sends, read, lacks, rfl,
      noticed ⟨rfl, lacks⟩⟩

end Orders

end FluentSql
