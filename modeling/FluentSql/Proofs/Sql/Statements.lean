import FluentSql.Chain.Plan
import FluentSql.Embedding.Resolve
import FluentSql.Proofs.Condition.Meaning

/-!
# Statements are read token by token

Every clause of a statement is read from one edge to the next, whatever names and values the caller
has given: a name becomes a quoted identifier or an error, and a value a placeholder. Only the
columns of a select list can be anything else, which `Selection.isPlain` rules out.

Results:
1. `Filter.reads_whereClause`: conditions of any depth.
2. `Draft.reads_statement`, `Draft.reads_countStatement`: the statements of a draft.
3. `Embed.reads_statement`: the statements for related rows.
-/

namespace FluentSql

open Sql

/-! ## Conditions -/

theorem ColumnRef.spells_sql (ref : ColumnRef) : SpellsNames .clear ref.sql.toList .token := by
  have point : SpellsNames .token ".".toList .clear :=
    .marks (by decide : isSpelling .token ".".toList [.mark .point] .clear = true) rfl
  rw [ColumnRef.sql, String.toList_append, String.toList_append]
  exact ((SpellsNames.name ref.table).append point).append (.name ref.column)

theorem ColumnRef.reads_sql (ref : ColumnRef) : Sql.Reads .clear ref.sql.toList [] .token :=
  ref.spells_sql.reads

/-- The `WHERE` clause of any filters. -/
theorem Filter.reads_whereClause (table : String) (filters : List Filter) :
    Clause.Reads .token (whereClause table filters) .token := by
  by_cases empty : filters = []
  · rw [empty]
    exact Clause.reads_empty
  · intro fragment written
    obtain ⟨_, _, -, -, means⟩ := means_whereClause empty written
    exact means.reads

/-! ## Select lists -/

/-- A column of a select list that is `*` or a simple name. -/
def isPlainColumn (column : String) : Bool := column == "*" || isSimpleName column.toList

mutual

/-- Every column that an embed selects is plain, at every depth. -/
def Embed.isPlain : Embed → Bool
  | ⟨_, _, columns, embeds⟩ => columns.all isPlainColumn && arePlain embeds

/-- Every column that embeds select is plain. -/
def arePlain : List Embed → Bool
  | [] => true
  | embed :: rest => embed.isPlain && arePlain rest

end

/-- Every column of a selection is plain, at every depth. -/
def Selection.isPlain (selection : Selection) : Bool :=
  selection.columns.all isPlainColumn && arePlain selection.embeds

theorem Embed.isPlain_selection (embed : Embed) : embed.selection.isPlain = embed.isPlain := by
  cases embed
  rw [Embed.isPlain, Embed.selection, Selection.isPlain]

namespace Selection

theorem spells_columnSql (table : Identifier) {column : String}
    (plain : isPlainColumn column = true) :
    SpellsNames .clear (columnSql table column).toList .token := by
  unfold columnSql
  split
  · have all : isSpelling .token ".*".toList [.mark .point, .mark .star] .token = true := by decide
    rw [String.toList_append]
    exact (SpellsNames.name table).append (.marks all rfl)
  · rename_i other
    split
    · exact ColumnRef.spells_sql _
    · rename_i unnamed
      -- A plain column that is not `*` has an identifier.
      have simple : isSimpleName column.toList = true := by simpa [isPlainColumn, other] using plain
      simp [Identifier.ofName?, simple] at unnamed

theorem spells_intercalate {texts : List String}
    (each : ∀ text ∈ texts, SpellsNames .clear text.toList .token) :
    SpellsNames .clear (", ".intercalate texts).toList .token := by
  induction texts with
  | nil => exact .nil
  | cons first rest ih =>
    have head := each first (by simp)
    cases rest with
    | nil => simpa using head
    | cons second rest =>
      have comma : isSpelling .token ", ".toList [.mark .comma] .clear = true := by decide
      have tail := ih fun text present => each text (List.mem_cons_of_mem first present)
      rw [String.intercalate_cons_cons, String.toList_append, String.toList_append]
      exact (head.append (.marks comma rfl)).append tail

/-- The column list of plain columns. -/
theorem spells_columnListSql (table : Identifier) {selection : Selection}
    (plain : selection.columns.all isPlainColumn = true) :
    SpellsNames .clear (columnListSql table selection).toList .token := by
  unfold columnListSql
  split
  · exact spells_columnSql table (by decide)
  · refine spells_intercalate ?_
    intro text present
    obtain ⟨column, listed, rfl⟩ := List.mem_map.mp present
    exact spells_columnSql table (List.all_eq_true.mp plain column listed)

theorem reads_columnListSql (table : Identifier) {selection : Selection}
    (plain : selection.isPlain = true) :
    Sql.Reads .clear (columnListSql table selection).toList [] .token := by
  rw [isPlain, Bool.and_eq_true] at plain
  exact (spells_columnListSql table plain.1).reads

end Selection

/-! ## The clauses of statements -/

theorem OrderKey.reads_clause (table : Identifier) (key : OrderKey) :
    Clause.Reads .clear (OrderKey.clause table key) .token := by
  have direction : Clause.Reads .token (.text (if key.ascending then " ASC" else " DESC")) .token :=
    Clause.reads_phrase (by cases key.ascending <;> decide)
  refine ((Clause.reads_qualified table.name key.column).append direction).append ?_
  split
  · exact Clause.reads_phrase (by decide)
  · exact Clause.reads_phrase (by decide)
  · exact Clause.reads_empty

theorem reads_orderClause (table : Identifier) (keys : List OrderKey) :
    Clause.Reads .token (orderClause table keys) .token := by
  unfold orderClause
  split
  · exact Clause.reads_empty
  · have keyword : Clause.Reads .token (.text " ORDER BY ") .clear :=
      Clause.reads_phrase (by decide)
    refine keyword.append (Clause.reads_separated (by decide) ?_)
    intro clause present
    obtain ⟨key, -, rfl⟩ := List.mem_map.mp present
    exact key.reads_clause table

theorem reads_pageClause (range : Option (Nat × Nat)) (limit : Option Nat) :
    Clause.Reads .token (pageClause range limit) .token := by
  have limitWord : Sql.Reads .token " LIMIT ".toList [] .clear := reads_of_isPhrase (by decide)
  have offsetWord : Sql.Reads .token " OFFSET ".toList [] .clear := reads_of_isPhrase (by decide)
  unfold pageClause
  split
  · refine Clause.reads_text ?_
    simp only [String.toList_append]
    exact ((limitWord.append (reads_number _)).append offsetWord).append (reads_number _)
  · refine Clause.reads_text ?_
    rw [String.toList_append]
    exact limitWord.append (reads_number _)
  · exact Clause.reads_empty

theorem reads_nameList (names : List String) : Clause.Reads .clear (nameList names) .token := by
  refine Clause.reads_separated (by decide) ?_
  intro clause present
  obtain ⟨name, -, rfl⟩ := List.mem_map.mp present
  exact Clause.reads_ident name

theorem reads_valuesTuple (columns : List String) (row : Row) :
    Clause.Reads .clear (valuesTuple columns row) .token := by
  have opening : Clause.Reads .clear (.text "(") .clear := Clause.reads_phrase (by decide)
  have closing : Clause.Reads .token (.text ")") .token := Clause.reads_phrase (by decide)
  exact (opening.append (Clause.reads_ofFragment (Fragment.reads_boundList _))).append closing

theorem reads_valuesClause (columns : List String) (rows : List Row) :
    Clause.Reads .token (valuesClause columns rows) .token := by
  unfold valuesClause
  split
  · split
    · exact Clause.reads_fail _
    · exact Clause.reads_phrase (by decide)
  · have opening : Clause.Reads .token (.text " (") .clear := Clause.reads_phrase (by decide)
    have values : Clause.Reads .token (.text ") VALUES ") .clear := Clause.reads_phrase (by decide)
    refine ((opening.append (reads_nameList columns)).append values).append
      (Clause.reads_separated (by decide) ?_)
    intro clause present
    obtain ⟨row, -, rfl⟩ := List.mem_map.mp present
    exact reads_valuesTuple columns row

theorem reads_excludedClause (column : String) :
    Clause.Reads .clear (excludedClause column) .token := by
  have excluded : Clause.Reads .token (.text " = EXCLUDED.") .clear :=
    Clause.reads_phrase (by decide)
  exact ((Clause.reads_ident column).append excluded).append (Clause.reads_ident column)

theorem reads_conflictClause (columns : List String) (target : String) :
    Clause.Reads .token (conflictClause columns target) .token := by
  unfold conflictClause
  split
  · exact Clause.reads_fail _
  · have opening : Clause.Reads .token (.text " ON CONFLICT (") .clear :=
      Clause.reads_phrase (by decide)
    have closing : Clause.Reads .token (.text ")") .token := Clause.reads_phrase (by decide)
    refine ((opening.append (reads_nameList _)).append closing).append ?_
    split
    · exact Clause.reads_phrase (by decide)
    · have keyword : Clause.Reads .token (.text " DO UPDATE SET ") .clear :=
        Clause.reads_phrase (by decide)
      refine keyword.append (Clause.reads_separated (by decide) ?_)
      intro clause present
      obtain ⟨column, -, rfl⟩ := List.mem_map.mp present
      exact reads_excludedClause column

theorem reads_assignmentClause (assignment : String × Json) :
    Clause.Reads .clear (assignmentClause assignment) .token := by
  have equals : Clause.Reads .token (.text " = ") .clear := Clause.reads_phrase (by decide)
  exact ((Clause.reads_ident assignment.1).append equals).append (Clause.reads_bound assignment.2)

/-- A keyword followed by the name of a table. -/
theorem reads_keyword_table {keyword : String} (table : Identifier)
    (phrase : isPhrase .clear keyword.toList .clear = true) :
    Sql.Reads .clear (keyword ++ table.sql).toList [] .token := by
  rw [String.toList_append]
  exact (reads_of_isPhrase phrase).append (reads_name table)

section

variable {condition : Fragment} {returning : String}

theorem reads_returningClause (columns : Sql.Reads .clear returning.toList [] .token) :
    Clause.Reads .token (returningClause returning) .token := by
  have keyword : Sql.Reads .token " RETURNING ".toList [] .clear := reads_of_isPhrase (by decide)
  refine Clause.reads_text ?_
  rw [String.toList_append]
  exact keyword.append columns

theorem reads_selectClause (table : Identifier) {selection : Selection}
    (plain : selection.isPlain = true) (filtered : Fragment.Reads .token condition .token)
    (order : List OrderKey) (range : Option (Nat × Nat)) (limit : Option Nat) :
    Clause.Reads .clear (selectClause table selection condition order range limit) .token := by
  have selectWord : Sql.Reads .clear "SELECT ".toList [] .clear := reads_of_isPhrase (by decide)
  have fromWord : Sql.Reads .token " FROM ".toList [] .clear := reads_of_isPhrase (by decide)
  have columns := selection.reads_columnListSql table plain
  have head : Clause.Reads .clear
      (.text ("SELECT " ++ selection.columnListSql table ++ " FROM " ++ table.sql)) .token := by
    refine Clause.reads_text ?_
    simp only [String.toList_append]
    exact ((selectWord.append columns).append fromWord).append (reads_name table)
  exact ((head.append (Clause.reads_ofFragment filtered)).append
    (reads_orderClause table order)).append (reads_pageClause range limit)

theorem reads_countFragment (table : Identifier) (filtered : Fragment.Reads .token condition .token) :
    Fragment.Reads .clear (countFragment table condition) .token :=
  (Fragment.reads_text (reads_keyword_table table (by decide))).append filtered

theorem reads_insertClause (table : Identifier) (rows : List Row) (target : Option String)
    (columns : Sql.Reads .clear returning.toList [] .token) :
    Clause.Reads .clear (insertClause table rows target returning) .token := by
  have head : Clause.Reads .clear (.text ("INSERT INTO " ++ table.sql)) .token :=
    Clause.reads_text (reads_keyword_table table (by decide))
  refine ((head.append (reads_valuesClause (columnUnion rows) rows)).append ?_).append
    (reads_returningClause columns)
  split
  · exact reads_conflictClause _ _
  · exact Clause.reads_empty

theorem reads_updateClause (table : Identifier) (row : Row)
    (filtered : Fragment.Reads .token condition .token)
    (columns : Sql.Reads .clear returning.toList [] .token) :
    Clause.Reads .clear (updateClause table row condition returning) .token := by
  unfold updateClause
  split
  · exact Clause.reads_fail _
  · have setWord : Sql.Reads .token " SET ".toList [] .clear := reads_of_isPhrase (by decide)
    have head : Clause.Reads .clear (.text ("UPDATE " ++ table.sql ++ " SET ")) .clear := by
      refine Clause.reads_text ?_
      rw [String.toList_append]
      exact (reads_keyword_table table (by decide)).append setWord
    have assignments : Clause.Reads .clear (.separated ", " (row.map assignmentClause)) .token := by
      refine Clause.reads_separated (by decide) ?_
      intro clause present
      obtain ⟨assignment, -, rfl⟩ := List.mem_map.mp present
      exact reads_assignmentClause assignment
    exact ((head.append assignments).append (Clause.reads_ofFragment filtered)).append
      (reads_returningClause columns)

theorem reads_deleteClause (table : Identifier) (filtered : Fragment.Reads .token condition .token)
    (columns : Sql.Reads .clear returning.toList [] .token) :
    Clause.Reads .clear (deleteClause table condition returning) .token := by
  have head : Clause.Reads .clear (.text ("DELETE FROM " ++ table.sql)) .token :=
    Clause.reads_text (reads_keyword_table table (by decide))
  exact (head.append (Clause.reads_ofFragment filtered)).append (reads_returningClause columns)

/-! ## The statements of a draft -/

namespace Draft

theorem reads_insertStatement {table : Identifier} {payload : Payload} {target : Option String}
    (columns : Sql.Reads .clear returning.toList [] .token) {fragment : Fragment}
    (written : insertStatement table payload target returning = .ok (some fragment)) :
    Fragment.Reads .clear fragment .token := by
  unfold insertStatement at written
  split at written
  · simp at written
  · obtain ⟨found, comes, same⟩ := map_eq_ok_iff.mp written
    cases same
    exact reads_insertClause table _ target columns _ comes

/-- The main statement of a draft with plain columns. -/
theorem reads_statement {draft : Draft} {table : Identifier} {selection : Selection}
    (plain : selection.isPlain = true) (filtered : Fragment.Reads .token condition .token)
    {fragment : Fragment}
    (written : draft.statement table selection condition = .ok (some fragment)) :
    Fragment.Reads .clear fragment .token := by
  have columns : Sql.Reads .clear
      (if draft.columns.isSome then selection.columnListSql table else "*").toList [] .token := by
    split
    · exact selection.reads_columnListSql table plain
    · exact reads_of_isPhrase (by decide)
  have ofClause : ∀ {clause : Clause}, Clause.Reads .clear clause .token →
      clause.result.map some = .ok (some fragment) → Fragment.Reads .clear fragment .token := by
    intro clause reads found
    obtain ⟨other, comes, same⟩ := map_eq_ok_iff.mp found
    cases same
    exact reads fragment comes
  have rows := reads_selectClause table plain filtered draft.order draft.range draft.limit
  simp only [statement] at written
  generalize (if draft.columns.isSome then selection.columnListSql table else "*") = returning
    at columns written
  split at written
  · exact ofClause rows written
  · split at written
    · simp at written
    · exact ofClause rows written
  · exact reads_insertStatement columns written
  · exact reads_insertStatement columns written
  · exact ofClause (reads_updateClause table _ filtered columns) written
  · exact ofClause (reads_deleteClause table filtered columns) written

/-- The counting statement of a draft. -/
theorem reads_countStatement {draft : Draft} {table : Identifier}
    (filtered : Fragment.Reads .token condition .token) {fragment : Fragment}
    (written : draft.countStatement table condition = some fragment) :
    Fragment.Reads .clear fragment .token := by
  unfold countStatement at written
  split at written
  · split at written
    · cases written
      exact reads_countFragment table filtered
    · cases written
  · cases written

end Draft

end

/-! ## The statements for embeds -/

/-- The statement for the related rows of an embed with plain columns, by any column. -/
theorem Embed.reads_statement {embed : Embed} (plain : embed.isPlain = true) {column ending : String}
    {value : Json} (ends : Sql.Reads .token ending.toList [] .token) {fragment : Fragment}
    (written : embed.statement column value ending = .ok fragment) :
    Fragment.Reads .clear fragment .token := by
  have selectWord : Sql.Reads .clear "SELECT ".toList [] .clear := reads_of_isPhrase (by decide)
  have fromWord : Sql.Reads .token " FROM ".toList [] .clear := reads_of_isPhrase (by decide)
  have whereWord : Sql.Reads .token " WHERE ".toList [] .clear := reads_of_isPhrase (by decide)
  have equals : Sql.Reads .token " = ".toList [] .clear := reads_of_isPhrase (by decide)
  obtain ⟨ref, -, same⟩ := bind_eq_ok_iff.mp written
  cases same
  have columns := embed.selection.reads_columnListSql ref.table (embed.isPlain_selection ▸ plain)
  refine Fragment.Reads.append (Fragment.Reads.append (Fragment.reads_text ?_)
    (Fragment.reads_bound value)) (Fragment.reads_text ends)
  simp only [String.toList_append]
  exact (((((selectWord.append columns).append fromWord).append (reads_name ref.table)).append
    whereWord).append ref.reads_sql).append equals

end FluentSql
