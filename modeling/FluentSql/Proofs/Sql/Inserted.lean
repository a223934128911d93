import FluentSql.Chain.Plan
import FluentSql.Proofs.Sql.Insertion
import FluentSql.Proofs.Sql.Meaning

/-!
# What insert clauses say

The clauses of an insert, as they are read: the names of the columns, the rows under them, and what
is said of conflicts. Only what stands before `RETURNING` is read, since a select list can be any
text.

Results:
1. `Clause.means_separated`: clauses with commas between them.
2. `means_valuesClause`, `means_conflictClause`: the two parts of an insert.
3. `insertClause_eq_ok`: an insert is read as an insertion of its rows.
-/

namespace FluentSql

open Sql

/-! ## Clauses -/

/-- What a clause comes to, if it comes to something, spells tokens of a kind. -/
def Clause.Means (before : Edge) (clause : Clause) (after : Edge)
    (kind : List Json → List Token → Prop) : Prop :=
  ∀ fragment, clause.result = .ok fragment → Fragment.Means before fragment after kind

namespace Clause

variable {before middle after : Edge} {first second clause : Clause}
  {kind one other : List Json → List Token → Prop} {sql : String} {word : List Token}

theorem Means.append (left : Means before first middle one) (right : Means middle second after other)
    (joins : ∀ values tokens tokens', one values tokens → other values tokens' →
      kind values (tokens ++ tokens')) :
    Means before (first ++ second) after kind := by
  intro fragment written
  obtain ⟨found, later, one_written, other_written, rfl⟩ := result_append_eq_ok.mp written
  exact (left found one_written).append (right later other_written) joins

theorem Means.imp (means : Means before clause after one)
    (implies : ∀ values tokens, one values tokens → kind values tokens) :
    Means before clause after kind :=
  fun fragment written => (means fragment written).imp implies

theorem means_ofFragment {fragment : Fragment} (means : Fragment.Means before fragment after kind) :
    Means before (ofFragment fragment) after kind := by
  intro found written
  cases written
  exact means

theorem means_fail (error : Error) : Means before (fail error) after kind :=
  fun _ written => nomatch written

theorem means_empty : Means before empty before fun _ tokens => tokens = [] := by
  refine means_ofFragment fun earlier later => ⟨[], ?_, rfl, rfl⟩
  exact fun run pending read admitted => ⟨[], run, pending, rfl, read, admitted, by simp⟩

/-- Fixed words. -/
theorem means_word (word : List Token)
    (spelling : isSpelling before sql.toList word after = true) :
    Means before (text sql) after fun _ tokens => tokens = word :=
  means_ofFragment (Fragment.means_word word spelling)

/-- A clause after fixed words. -/
theorem Means.afterWord (means : Means middle clause after one)
    (spelling : isSpelling before sql.toList word middle = true) :
    Means before (text sql ++ clause) after fun values tokens =>
      ∃ rest, tokens = word ++ rest ∧ one values rest :=
  (means_word word spelling).append means fun _ _ tokens' same meant => ⟨tokens', by rw [same], meant⟩

/-- A clause before fixed words. -/
theorem Means.beforeWord (means : Means before clause middle one)
    (spelling : isSpelling middle sql.toList word after = true) :
    Means before (clause ++ text sql) after fun values tokens =>
      ∃ rest, tokens = rest ++ word ∧ one values rest :=
  means.append (means_word word spelling) fun _ tokens _ meant same => ⟨tokens, by rw [same], meant⟩

theorem means_ident (name : String) :
    Means .clear (ident name) .token fun _ tokens => IsName name tokens := by
  intro fragment written
  rw [ident, result_ofExcept, map_eq_ok_iff] at written
  obtain ⟨column, named, rfl⟩ := written
  exact (Fragment.means_ident column).imp fun _ tokens same =>
    ⟨column, Identifier.name_of_ofName named, same⟩

/-- Clauses with commas between them, one for each item of a list. -/
theorem means_separated {α : Type} {clauseOf : α → Clause} {each : List Json → α → List Token → Prop}
    (means : ∀ item, Means .clear (clauseOf item) .token fun values => each values item)
    {items : List α} (nonempty : items ≠ []) :
    Means .clear (separated ", " (items.map clauseOf)) .token fun values =>
      Separated (each values) items := by
  have comma : isSpelling .token ", ".toList [.mark .comma] .clear = true := by decide
  induction items with
  | nil => exact absurd rfl nonempty
  | cons item rest ih =>
    cases rest with
    | nil => exact (means item).imp fun _ _ spelled => .one spelled
    | cons next rest =>
      refine ((means item).beforeWord comma).append (ih (List.cons_ne_nil _ _)) ?_
      rintro values _ later ⟨tokens, rfl, spelled⟩ rest_spelled
      rw [List.append_assoc]
      exact .more spelled rest_spelled

end Clause

/-! ## Columns and rows -/

theorem means_nameList {names : List String} (nonempty : names ≠ []) :
    Clause.Means .clear (nameList names) .token fun _ => Separated IsName names :=
  Clause.means_separated Clause.means_ident nonempty

/-- The cells of a row under columns; what the row lacks is null. -/
def Row.cells (columns : List String) (row : Row) : List Json :=
  columns.map fun column => (row.get? column).getD .null

theorem means_valuesTuple {columns : List String} (nonempty : columns ≠ []) (row : Row) :
    Clause.Means .clear (valuesTuple columns row) .token fun values =>
      IsRow values (row.cells columns) := by
  have opening : isSpelling .clear "(".toList [.mark .opening] .clear = true := by decide
  have closing : isSpelling .token ")".toList [.mark .closing] .token = true := by decide
  have cells : Clause.Means .clear (.ofFragment (Fragment.boundList (row.cells columns))) .token
      fun values tokens => Lists values tokens (row.cells columns) :=
    Clause.means_ofFragment (Fragment.means_boundList (by simpa [Row.cells] using nonempty))
  refine ((cells.afterWord opening).beforeWord closing).imp ?_
  rintro values _ ⟨_, rfl, inner, rfl, lists⟩
  exact ⟨inner, rfl, lists⟩

theorem means_valuesClause {columns : List String} (nonempty : columns ≠ []) {rows : List Row}
    (several : rows ≠ []) :
    Clause.Means .token (valuesClause columns rows) .token fun values =>
      IsBody values columns (Row.cells columns) rows := by
  have opening : isSpelling .token " (".toList [.mark .opening] .clear = true := by decide
  have between : isSpelling .token ") VALUES ".toList [.mark .closing, valuesToken] .clear = true := by
    decide
  have names := ((means_nameList nonempty).afterWord opening).beforeWord between
  have tuples := Clause.means_separated (means_valuesTuple nonempty) several
  have both : valuesClause columns rows =
      .text " (" ++ nameList columns ++ .text ") VALUES " ++
        .separated ", " (rows.map (valuesTuple columns)) := by
    rw [valuesClause]
    exact nonempty
  rw [both]
  refine names.append tuples ?_
  rintro values _ rest ⟨_, rfl, spelled, rfl, named⟩ rows_spelled
  exact ⟨spelled, rest, by simp, named, rows_spelled⟩

/-! ## Conflicts -/

theorem means_excludedClause (column : String) :
    Clause.Means .clear (excludedClause column) .token fun _ => IsTaken column := by
  have excluded : isSpelling .token " = EXCLUDED.".toList
      [equalsToken, excludedToken, .mark .point] .clear = true := by decide
  refine ((Clause.means_ident column).beforeWord excluded).append (Clause.means_ident column) ?_
  rintro _ _ _ ⟨_, rfl, target, rfl, rfl⟩ ⟨source, same, rfl⟩
  obtain rfl := Identifier.name_injective same
  exact ⟨source, rfl, rfl⟩

/-- The columns that are set on a conflict, those that are no targets. -/
def conflictUpdates (columns : List String) (target : String) : List String :=
  columns.filter (!(conflictTargets target).contains ·)

theorem means_conflictClause (columns : List String) (target : String) :
    Clause.Means .token (conflictClause columns target) .token fun _ =>
      IsConflict (conflictTargets target) (conflictUpdates columns target) := by
  have opening : isSpelling .token " ON CONFLICT (".toList onConflict .clear = true := by decide
  have closing : isSpelling .token ")".toList [.mark .closing] .token = true := by decide
  have left_out : isSpelling .token " DO NOTHING".toList doNothing .token = true := by decide
  have update : isSpelling .token " DO UPDATE SET ".toList doUpdateSet .clear = true := by decide
  unfold conflictClause conflictUpdates
  cases targets : conflictTargets target with
  | nil => exact Clause.means_fail _
  | cons first rest =>
    have names := ((means_nameList (List.cons_ne_nil first rest)).afterWord opening).beforeWord closing
    dsimp only
    cases columns.filter (!(first :: rest).contains ·) with
    | nil =>
      refine names.append (Clause.means_word doNothing left_out) ?_
      rintro _ _ _ ⟨_, rfl, spelled, rfl, named⟩ rfl
      exact ⟨spelled, doNothing, by simp, named, .nothing⟩
    | cons update_first updates =>
      have taken := Clause.means_separated means_excludedClause (List.cons_ne_nil update_first updates)
      refine names.append (taken.afterWord update) ?_
      rintro _ _ _ ⟨_, rfl, spelled, rfl, named⟩ ⟨assignments, rfl, assigned⟩
      exact ⟨spelled, doUpdateSet ++ assignments, by simp, named, .update assigned⟩

/-! ## Inserts -/

theorem means_insertInto (table : Identifier) :
    Clause.Means .clear (.text ("INSERT INTO " ++ table.sql)) .token fun _ tokens =>
      tokens = insertInto table := by
  have words : isSpelling .clear "INSERT INTO ".toList
      [wordToken "INSERT" (by decide), wordToken "INTO" (by decide)] .clear = true := by decide
  refine Clause.means_ofFragment (Fragment.means_text ?_ rfl)
  rw [String.toList_append]
  exact (spells_of_isSpelling words).1.append (spells_name table)

/-- What is said of conflicts: nothing without a target, and else what becomes of them. -/
def SettlesConflicts (columns : List String) : Option String → Option Conflict → Prop
  | none, conflict => conflict = none
  | some target, conflict => ∃ settled, conflict = some settled ∧
      settled.Updates (conflictTargets target) (conflictUpdates columns target)

/-- An insertion of rows into a table. -/
structure Sql.Insertion.Inserts (insertion : Insertion) (table : Identifier) (rows : List Row)
    (target : Option String) : Prop where
  table : insertion.table = table
  columns : insertion.columns.map Identifier.name = columnUnion rows
  conflict : SettlesConflicts (columnUnion rows) target insertion.conflict
  rows : insertion.rows = rows.map (Row.cells (columnUnion rows))

/-- What stands before `RETURNING`. -/
def insertedClause (table : Identifier) (rows : List Row) (target : Option String) : Clause :=
  .text ("INSERT INTO " ++ table.sql) ++ valuesClause (columnUnion rows) rows ++
    match target with
    | some target => conflictClause (columnUnion rows) target
    | none => .empty

theorem means_insertedClause (table : Identifier) {rows : List Row}
    (columned : columnUnion rows ≠ []) (target : Option String) :
    Clause.Means .clear (insertedClause table rows target) .token fun values tokens =>
      ∃ insertion, Insertion.read values tokens = some insertion ∧
        insertion.Inserts table rows target := by
  have several : rows ≠ [] := by
    rintro rfl
    exact columned rfl
  have head : Clause.Means .clear
      (.text ("INSERT INTO " ++ table.sql) ++ valuesClause (columnUnion rows) rows) .token
      fun values tokens => ∃ body, tokens = insertInto table ++ body ∧
        IsBody values (columnUnion rows) (Row.cells (columnUnion rows)) rows body :=
    (means_insertInto table).append (means_valuesClause columned several)
      fun _ _ body same is => ⟨body, by rw [same], is⟩
  have reads {values : List Json} {body ending : List Token} {conflict : Option Conflict}
      (is : IsBody values (columnUnion rows) (Row.cells (columnUnion rows)) rows body)
      (ends : readConflict ending = some conflict)
      (settles : SettlesConflicts (columnUnion rows) target conflict) :
      ∃ insertion, Insertion.read values ((insertInto table ++ body) ++ ending) = some insertion ∧
        insertion.Inserts table rows target := by
    obtain ⟨columns, named, read⟩ := Insertion.read_eq table is ends
    rw [List.append_assoc]
    exact ⟨_, read, rfl, named, settles, rfl⟩
  unfold insertedClause
  cases target with
  | none =>
    refine head.append Clause.means_empty ?_
    rintro values _ _ ⟨body, rfl, is⟩ rfl
    exact reads is rfl rfl
  | some target =>
    refine head.append (means_conflictClause _ target) ?_
    rintro values _ ending ⟨body, rfl, is⟩ conflicts
    obtain ⟨conflict, read, updates⟩ := readConflict_eq conflicts
    exact reads is read ⟨conflict, rfl, updates⟩

/-- An insert is read, before its `RETURNING`, as an insertion of its rows. -/
theorem insertClause_eq_ok {table : Identifier} {rows : List Row} {target : Option String}
    {returning : String} {fragment : Fragment} (columned : columnUnion rows ≠ [])
    (written : (insertClause table rows target returning).result = .ok fragment) :
    ∃ text tokens insertion, Fragment.sql fragment = text ++ " RETURNING " ++ returning ∧
      tokenise text = some tokens ∧
      Insertion.read (Fragment.params fragment) tokens = some insertion ∧
      insertion.Inserts table rows target := by
  have parts : insertClause table rows target returning =
      insertedClause table rows target ++ .text (" RETURNING " ++ returning) := rfl
  rw [parts] at written
  obtain ⟨first, _, inserted, returned, rfl⟩ := Clause.result_append_eq_ok.mp written
  rw [Clause.result_text] at returned
  cases returned
  obtain ⟨tokens, spelled, -, insertion, read, inserts⟩ :=
    means_insertedClause table columned target first inserted [] []
  refine ⟨Fragment.sql first, tokens, insertion, ?_, spelled.tokenise, ?_, inserts⟩
  · rw [Fragment.sql, Fragment.sqlFrom_append, Fragment.sqlFrom_text, ← String.append_assoc]
    rfl
  · rwa [Fragment.params_append, Fragment.params_text]

end FluentSql
