import FluentSql.Proofs.Chain.Scope
import FluentSql.Proofs.Run.Keeps
import FluentSql.Proofs.Statement.Delimited

/-!
# Readable statements

Every statement that is written is delimited: those of plans, those that are sent to resolve embeds,
and the conditions in them. So the literals in the readable copy of a statement denote what is sent for
its values, and no value can end its literal early.

Results:
1. `Condition.delimits_fragment`, `Filter.delimits_whereClause`: conditions.
2. `Draft.delimited_statement`, `Embed.delimited_statement`: statements.
3. `Chain.inlined_denotes`: what the literals of any such statement denote.
-/

namespace FluentSql

open Fragment (Delimited)

/-! ## Conditions -/

theorem Test.delimits_suffix (test : Test) : Fragment.Delimits .text test.suffix .value := by
  cases test with
  | compare comparison value =>
    exact (Fragment.delimits_of_unbound rfl).append (Fragment.delimits_bound value)
  | is truth => exact (Fragment.delimits_of_unbound rfl).toValue
  | among values =>
    have opening : Fragment.Delimits .text (Fragment.text " IN (") .text :=
      Fragment.delimits_of_unbound rfl
    have closing : Fragment.Delimits .value (Fragment.text ")") .text :=
      Fragment.delimits_text (by decide)
    exact ((opening.append (Fragment.delimits_boundList values)).append closing).toValue

theorem Test.delimits_fragment (column : ColumnRef) (test : Test) :
    Fragment.Delimits .text (test.fragment column) .value := by
  unfold fragment
  split
  · exact (Fragment.delimits_of_unbound rfl).toValue
  · exact (Fragment.delimits_of_unbound rfl).append test.delimits_suffix

namespace Condition

theorem delimits_parenthesised {fragment : Fragment}
    (delimits : Fragment.Delimits .text fragment .value) :
    Fragment.Delimits .text (parenthesised fragment) .text :=
  ((Fragment.delimits_of_unbound rfl).append delimits).append (Fragment.delimits_text (by decide))

theorem delimits_joiner (joiner : Joiner) :
    Fragment.Delimits .text (Fragment.text joiner.sql) .text :=
  Fragment.delimits_of_unbound rfl

mutual

/-- A condition is delimited, however deep its groups are. -/
theorem delimits_fragment (condition : Condition) :
    Fragment.Delimits .text condition.fragment .text := by
  cases condition with
  | test column test =>
    rw [fragment]
    exact delimits_parenthesised (test.delimits_fragment column)
  | group joiner terms =>
    rw [fragment]
    exact delimits_parenthesised
      (Fragment.delimits_separated (delimits_joiner joiner) (delimits_termFragments terms)).toValue

theorem delimits_termFragments (terms : List Condition) :
    ∀ fragment ∈ termFragments terms, Fragment.Delimits .text fragment .text := by
  cases terms with
  | nil =>
    intro fragment present
    rw [termFragments] at present
    cases present
  | cons term rest =>
    intro fragment present
    rw [termFragments] at present
    rcases List.mem_cons.mp present with rfl | later
    · exact term.delimits_fragment
    · exact delimits_termFragments rest fragment later

end

end Condition

namespace Filter

theorem delimits_testClause (table column : String) (test : Test) :
    Clause.Delimits .text (testClause table column test) .value :=
  (Clause.binds_qualified table column).delimits.append
    (Clause.delimits_ofFragment test.delimits_suffix)

theorem delimits_clause (table : String) (filter : Filter) :
    Clause.Delimits .text (filter.clause table) .value := by
  cases filter with
  | compare comparison column value => exact delimits_testClause table column _
  | is column value =>
    rw [clause]
    split
    · exact delimits_testClause table column _
    · exact Clause.delimits_fail _
  | among column values =>
    cases values with
    | nil =>
      rw [clause]
      split
      · exact (Clause.binds_text _).delimits.toValue
      · exact Clause.delimits_fail _
    | cons value rest => exact delimits_testClause table column _
  | any expression =>
    intro fragment written
    rw [clause, Clause.result_ofExcept, map_eq_ok_iff] at written
    obtain ⟨condition, -, rfl⟩ := written
    exact condition.delimits_fragment.toValue

/-- The `WHERE` clause of any filters, even behind a value. -/
theorem delimits_whereClause (table : String) (filters : List Filter) :
    Clause.Delimits .value (whereClause table filters) .value := by
  cases filters with
  | nil => exact Clause.delimits_empty
  | cons filter rest =>
    refine Clause.Delimits.append (Clause.delimits_text (by decide)) ?_
    refine Clause.delimits_separated (Fragment.delimits_text (by decide)) ?_
    intro clause present
    obtain ⟨filter, -, rfl⟩ := List.mem_map.mp present
    exact filter.delimits_clause table

end Filter

/-! ## Statements -/

variable {condition : Fragment}

theorem delimits_orderClause (table : Identifier) (keys : List OrderKey) :
    Clause.Delimits .value (orderClause table keys) .value := by
  cases keys with
  | nil => exact Clause.delimits_empty
  | cons key rest =>
    have listed : Clause.Binds (.separated ", " ((key :: rest).map (OrderKey.clause table))) [] :=
      Clause.binds_separated_nil ", " fun key _ => key.binds_clause table
    exact ((Clause.delimits_text (by decide)).append listed.delimits).toValue

theorem delimits_pageClause (range : Option (Nat × Nat)) (limit : Option Nat) :
    Clause.Delimits .value (pageClause range limit) .value := by
  have limited (rest : String) : Clause.Delimits .value (.text (" LIMIT " ++ rest)) .value :=
    (Clause.delimits_text (by simp; decide)).toValue
  unfold pageClause
  split
  · rw [String.append_assoc, String.append_assoc]
    exact limited _
  · exact limited _
  · exact Clause.delimits_empty

theorem delimits_returningClause (returning : String) :
    Clause.Delimits .value (returningClause returning) .text :=
  Clause.delimits_text (by simp; decide)

theorem delimits_selectClause (table : Identifier) (selection : Selection)
    (filtered : Fragment.Delimits .value condition .value) (order : List OrderKey)
    (range : Option (Nat × Nat)) (limit : Option Nat) :
    Clause.Delimits .text (selectClause table selection condition order range limit) .value :=
  (((Clause.binds_text _).delimits.append (Clause.delimits_ofFragment filtered.fromText)).append
    (delimits_orderClause table order)).append (delimits_pageClause range limit)

theorem delimits_valuesTuple (columns : List String) (row : Row) :
    Clause.Delimits .text (valuesTuple columns row) .text :=
  ((Clause.binds_text _).delimits.append
    (Clause.delimits_ofFragment (Fragment.delimits_boundList _))).append
    (Clause.delimits_text (by decide))

theorem delimits_valuesClause (columns : List String) (rows : List Row) :
    Clause.Delimits .text (valuesClause columns rows) .text := by
  cases columns with
  | nil =>
    rw [valuesClause]
    split
    · exact Clause.delimits_fail _
    · exact (Clause.binds_text _).delimits
  | cons column columns =>
    have names := ((Clause.binds_text " (").before (binds_nameList (column :: columns))).before
      (Clause.binds_text ") VALUES ")
    refine names.delimits.append
      (Clause.delimits_separated (Fragment.delimits_of_unbound rfl) ?_)
    intro clause present
    obtain ⟨row, -, rfl⟩ := List.mem_map.mp present
    exact delimits_valuesTuple _ row

theorem delimits_insertClause (table : Identifier) (rows : List Row) (target : Option String)
    (returning : String) :
    Clause.Delimits .text (insertClause table rows target returning) .text := by
  refine (((Clause.binds_text _).delimits.append (delimits_valuesClause _ rows)).append ?_).append
    (delimits_returningClause returning).fromText
  split
  · exact (binds_conflictClause _ _).delimits
  · exact Clause.delimits_empty

theorem delimits_assignmentClause (assignment : String × Json) :
    Clause.Delimits .text (assignmentClause assignment) .value :=
  ((Clause.binds_ident assignment.1).before (Clause.binds_text " = ")).delimits.append
    (Clause.delimits_bound assignment.2)

theorem delimits_updateClause (table : Identifier) (row : Row)
    (filtered : Fragment.Delimits .value condition .value) (returning : String) :
    Clause.Delimits .text (updateClause table row condition returning) .text := by
  cases row with
  | nil => exact Clause.delimits_fail _
  | cons field rest =>
    refine (((Clause.binds_text _).delimits.append ?_).append
      (Clause.delimits_ofFragment filtered)).append (delimits_returningClause returning)
    refine Clause.delimits_separated (Fragment.delimits_text (by decide)) ?_
    intro clause present
    obtain ⟨assignment, -, rfl⟩ := List.mem_map.mp present
    exact delimits_assignmentClause assignment

theorem delimits_deleteClause (table : Identifier)
    (filtered : Fragment.Delimits .value condition .value) (returning : String) :
    Clause.Delimits .text (deleteClause table condition returning) .text :=
  ((Clause.binds_text _).delimits.append (Clause.delimits_ofFragment filtered.fromText)).append
    (delimits_returningClause returning)

namespace Draft

variable {draft : Draft} {table : Identifier}

/-- The main statement of a draft. -/
theorem delimited_statement {selection : Selection} {fragment : Fragment}
    (filtered : Fragment.Delimits .value condition .value)
    (written : draft.statement table selection condition = .ok (some fragment)) :
    Delimited fragment := by
  obtain ⟨clause, kind, done⟩ := exists_statementClause written
  have delimits : Clause.Delimits .text clause .value := by
    cases kind with
    | select order range limit => exact delimits_selectClause table selection filtered order range limit
    | insert rows target returning => exact (delimits_insertClause table rows target returning).toValue
    | update row returning => exact (delimits_updateClause table row filtered returning).toValue
    | delete returning => exact (delimits_deleteClause table filtered returning).toValue
  exact (delimits fragment done).delimited

/-- The counting statement of a draft. -/
theorem delimited_countStatement (filtered : Fragment.Delimits .value condition .value) :
    ∀ fragment ∈ draft.countStatement table condition, Delimited fragment := by
  intro fragment counts
  rw [countStatement] at counts
  split at counts
  · split at counts
    · cases counts
      exact ((Fragment.delimits_of_unbound rfl).append filtered.fromText).delimited
    · cases counts
  · cases counts

end Draft

/-- The statements of a plan. -/
theorem Chain.delimited_plan {chain : Chain} {plan : Plan} (planned : chain.plan = .ok plan) :
    (∀ fragment ∈ plan.statement, Delimited fragment) ∧
      ∀ fragment ∈ plan.countStatement, Delimited fragment := by
  obtain ⟨draft, -, planned⟩ := Chain.plan_eq_ok planned
  obtain ⟨table, selection, condition, statement, -, -, where_, written, rfl⟩ :=
    Draft.plan_eq_ok planned
  have filtered := Filter.delimits_whereClause table.name draft.filters condition where_
  refine ⟨?_, Draft.delimited_countStatement filtered⟩
  rintro fragment rfl
  exact Draft.delimited_statement filtered written

/-! ## Embeds -/

/-- The statement for the related rows of an embed. -/
theorem Embed.delimited_statement {embed : Embed} {column ending : String} {value : Json}
    (known : ending = "" ∨ ending = " LIMIT 1") {fragment : Fragment}
    (written : embed.statement column value ending = .ok fragment) : Delimited fragment := by
  obtain ⟨ref, -, same⟩ := bind_eq_ok_iff.mp written
  cases same
  have ends : Fragment.Delimits .value (Fragment.text ending) .value := by
    rcases known with rfl | rfl
    · exact fun rest follows => follows
    · exact (Fragment.delimits_text (by decide)).toValue
  exact (((Fragment.delimits_of_unbound rfl).append (Fragment.delimits_bound value)).append
    ends).delimited

/-- Every request that a recording client has received is a delimited fragment. -/
def AllDelimited {σ : Type} (session : Session (σ × List Request)) : Prop :=
  ∀ request ∈ session.client.2, ∃ fragment, Delimited fragment ∧
    request.sql = Fragment.sql fragment ∧ request.params = Fragment.params fragment

theorem conserves_allDelimited {σ : Type} (client : Client σ) (settings : Settings) :
    Conserves AllDelimited ⟨client.recording, settings⟩ fun _ => True where
  logs := fun _ _ holds => holds
  sends := by
    intro embed _ column value ending fragment known written session holds request present
    rcases List.mem_append.mp present with earlier | this
    · exact holds request earlier
    · rw [List.mem_singleton.mp this]
      exact ⟨fragment, Embed.delimited_statement known written, rfl, rfl⟩
  inner := fun _ _ _ _ => trivial

/-- Resolving embeds sends delimited fragments only. -/
theorem Runner.allDelimited_resolveRows {σ : Type} (client : Client σ) (settings : Settings)
    (embeds : List Embed) (base : String) (rows : List Row) (state : σ) (events : List Event) :
    AllDelimited (Runner.resolveRows ⟨client.recording, settings⟩ embeds base rows
      ⟨(state, []), events⟩).2 := by
  refine (conserves_allDelimited client settings).resolveRows embeds (fun _ _ => trivial) base rows _ ?_
  intro request present
  cases present

/-! ## Readable copies -/

/-- The main result: the readable copy of a delimited fragment has, in place of each placeholder, the
literal of its value, and each literal is read to its own end and denotes what is sent for the value.
Delimited are the statements of every plan, the `WHERE` clause of any filters, every condition, and
every statement that is sent to resolve embeds. -/
theorem Chain.inlined_denotes :
    (∀ fragment, Delimited fragment → Fragment.Denotes fragment) ∧
    (∀ chain plan, Chain.plan chain = .ok plan →
      (∀ fragment ∈ plan.statement, Delimited fragment) ∧
        ∀ fragment ∈ plan.countStatement, Delimited fragment) ∧
    (∀ table filters fragment, (Filter.whereClause table filters).result = .ok fragment →
      Delimited fragment) ∧
    (∀ condition : Condition, Delimited condition.fragment) ∧
    ∀ {σ : Type} (client : Client σ) (settings : Settings) (embeds : List Embed) (base : String)
      (rows : List Row) (state : σ) (events : List Event),
      AllDelimited (Runner.resolveRows ⟨client.recording, settings⟩ embeds base rows
        ⟨(state, []), events⟩).2 :=
  ⟨fun _ => Delimited.denotes, fun _ _ => delimited_plan,
    fun table filters fragment written =>
      (Filter.delimits_whereClause table filters fragment written).delimited,
    fun condition => condition.delimits_fragment.toValue.delimited,
    Runner.allDelimited_resolveRows⟩

namespace Memos

/-- Text that would end its literal if its quotes were not doubled. -/
def breaking : String := "'); DROP TABLE memos; --'"

/-- The memos that say so, whatever their marks. -/
def quoting : Chain :=
  ⟨"memos", [.filter (.compare .eq "text" (.string breaking)),
    .filter (.among "marks" [.array [.string "it's", .null], .null])]⟩

theorem compiled_quoting : quoting.compiled = some (.select,
    "SELECT \"memos\".* FROM \"memos\" WHERE " ++
      "\"memos\".\"text\" = $1 AND \"memos\".\"marks\" IN ($2, $3)", 3) := by
  decide +kernel

theorem quoted_and_read :
    ∃ plan statement before after, quoting.plan = .ok plan ∧ plan.statement = some statement ∧
      Delimited statement ∧ statement = before ++ .bound (.string breaking) :: after ∧
      Fragment.inlineSql statement =
        Fragment.inlineSql before ++ (quotedLiteral breaking ++ Fragment.inlineSql after) ∧
      Sql.readLiteral (quotedLiteral breaking ++ Fragment.inlineSql after).toList =
        some (⟨some breaking, false⟩, (Fragment.inlineSql after).toList) := by
  obtain ⟨plan, statement, planned, stated, selects, -⟩ := Chain.exists_of_compiled compiled_quoting
  have delimited := (Chain.inlined_denotes.2.1 quoting plan planned).1 statement stated
  have binds := (Chain.binds_plan planned).statement statement stated
  rw [selects] at binds
  have bound : .string breaking ∈ Fragment.params statement := by
    rw [binds]
    exact List.mem_cons_self
  obtain ⟨piece, placed, holds⟩ := List.mem_filterMap.mp bound
  cases piece with
  | text sql => cases holds
  | bound value =>
    cases holds
    obtain ⟨before, after, split⟩ := List.append_of_mem placed
    obtain ⟨text, read⟩ := (Chain.inlined_denotes.1 statement delimited).read before _ after split
    exact ⟨plan, statement, before, after, planned, stated, delimited, split, text,
      read (.scalar .text) rfl rfl⟩

end Memos

end FluentSql
