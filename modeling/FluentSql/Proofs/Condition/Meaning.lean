import FluentSql.Condition.Filter
import FluentSql.Proofs.Condition.Parse
import FluentSql.Proofs.Sql.Meaning

/-!
# What conditions mean

Conditions of any depth, and the filters of a clause, are each written as one primary expression, so
that nothing in them reaches out of them.

Results:
1. `Condition.expresses_fragment`: a condition says what its tests say, joined as its groups join them.
2. `Filter.expresses_clause`: so does a filter.
3. `Filter.whereClause_conjunction`: a `WHERE` clause says that all its filters hold.
-/

namespace FluentSql

open Sql

/-! ## Conditions -/

/-- What a test says; of no values a column is none. -/
def Test.predicate (column : ColumnRef) : Test → Predicate
  | .among [] => .never
  | test => .test column test

/-- How a joiner joins. -/
def Joiner.join : Joiner → Predicate → Predicate → Predicate
  | .and => .and
  | .or => .or

mutual

/-- What a condition says; a group without terms says nothing. -/
def Condition.predicate? : Condition → Option Predicate
  | .test column tested => some (tested.predicate column)
  | .group joiner terms => (Condition.predicates? terms).bind (Predicate.joined joiner.join)

/-- What the terms of a group say. -/
def Condition.predicates? : List Condition → Option (List Predicate)
  | [] => some []
  | term :: rest =>
    term.predicate?.bind fun first => (Condition.predicates? rest).map (first :: ·)

end

/-- The column of a test. -/
theorem ColumnRef.means_ident (table column : Identifier) :
    Fragment.Means .clear (Fragment.ident table ++ Fragment.text "." ++ Fragment.ident column) .token
      fun _ tokens => tokens = [.name table, .mark .point, .name column] := by
  have point : isSpelling .token ".".toList [.mark .point] .clear = true := by decide
  refine (Fragment.means_ident table).joined point (Fragment.means_ident column) ?_
  rintro _ _ _ rfl rfl
  rfl

theorem ColumnRef.means_column (ref : ColumnRef) :
    Fragment.Means .clear (Fragment.column ref) .token
      fun _ tokens => tokens = [.name ref.table, .mark .point, .name ref.column] := by
  intro earlier later
  -- The same text in one piece.
  have same : Fragment.sqlFrom earlier.length (Fragment.column ref) =
      Fragment.sqlFrom earlier.length
        (Fragment.ident ref.table ++ Fragment.text "." ++ Fragment.ident ref.column) := by
    simp [Fragment.column, Fragment.ident, Fragment.sqlFrom_append, ColumnRef.sql,
      String.append_assoc]
  rw [same]
  exact ColumnRef.means_ident ref.table ref.column earlier later

theorem Comparison.isSpelling_sql (comparison : Comparison) :
    isSpelling .token (" " ++ comparison.sql ++ " ").toList [comparisonToken comparison] .clear =
      true := by
  cases comparison <;> decide

theorem Truth.isSpelling_sql (truth : Truth) :
    isSpelling .token truth.sql.toList [isToken, truthToken truth] .token = true := by
  cases truth <;> decide

namespace Test

/-- What follows a column is a test of it. -/
theorem means_suffix {test : Test} (tested : test ≠ .among []) :
    Fragment.Means .token test.suffix .token fun values tokens => Tests values tokens test := by
  cases test with
  | compare comparison value =>
    have word : Fragment.Means .token (Fragment.text (" " ++ comparison.sql ++ " ")) .clear
        fun _ tokens => tokens = [comparisonToken comparison] :=
      Fragment.means_word _ comparison.isSpelling_sql
    refine word.append (Fragment.means_bound value) ?_
    rintro values _ _ rfl ⟨number, rfl, bound⟩
    exact .compare comparison bound
  | is truth =>
    refine (Fragment.means_word _ truth.isSpelling_sql).imp ?_
    rintro values _ rfl
    exact .is truth
  | among listed =>
    have nonempty : listed ≠ [] := by
      rintro rfl
      exact tested rfl
    have opening : isSpelling .token " IN (".toList [inToken, .mark .opening] .clear = true := by
      decide
    have closing : isSpelling .token ")".toList [.mark .closing] .token = true := by decide
    exact Fragment.Means.enclosed opening (Fragment.means_boundList nonempty) closing
      fun _ _ lists => .among lists

theorem predicate_of_ne {test : Test} (tested : test ≠ .among []) (column : ColumnRef) :
    test.predicate column = .test column test := by
  rw [predicate]
  rintro rfl
  exact tested rfl

/-- A column that is tested. -/
theorem expresses_column {test : Test} (tested : test ≠ .among []) {written : Fragment}
    {column : ColumnRef}
    (named : Fragment.Means .clear written .token
      fun _ tokens => tokens = [.name column.table, .mark .point, .name column.column]) :
    Fragment.Expresses .primary (written ++ test.suffix) (test.predicate column) := by
  rw [predicate_of_ne tested]
  refine named.append (means_suffix tested) ?_
  rintro values _ tokens rfl tests
  exact .test column tests

theorem expresses_false : Fragment.Expresses .primary (Fragment.text "false") .never := by
  refine (Fragment.means_word [falseToken] (by decide)).imp ?_
  rintro values _ rfl
  exact .never

theorem expresses_fragment (column : ColumnRef) (test : Test) :
    Fragment.Expresses .primary (test.fragment column) (test.predicate column) := by
  by_cases empty : test = .among []
  · rw [empty]
    exact expresses_false
  · have written : test.fragment column = Fragment.column column ++ test.suffix := by
      rw [fragment]
      rintro rfl
      exact empty rfl
    rw [written]
    exact expresses_column empty column.means_column

end Test

namespace Condition

/-- A group is what its terms are, joined. -/
theorem expresses_group {joiner : Joiner} {fragments : List Fragment} {predicates : List Predicate}
    {whole : Predicate} (terms : List.Forall₂ (Fragment.Expresses .primary) fragments predicates)
    (joins : Predicate.joined joiner.join predicates = some whole) :
    Fragment.Expresses .primary (parenthesised (Fragment.separated joiner.sql fragments)) whole := by
  cases terms with
  | nil => cases joins
  | cons head tail =>
    cases joins
    refine Fragment.Expresses.group ?_
    cases joiner with
    | and => exact (Fragment.expresses_separated_and head.conjunct tail).disjunct
    | or => exact Fragment.expresses_separated_or head.conjunct.disjunct tail

mutual

/-- A condition of any depth is one primary expression. -/
theorem expresses_fragment (condition : Condition) {predicate : Predicate}
    (said : condition.predicate? = some predicate) :
    Fragment.Expresses .primary condition.fragment predicate := by
  cases condition with
  | test column tested =>
    rw [predicate?] at said
    cases said
    rw [fragment]
    have inner := (tested.expresses_fragment column).conjunct.disjunct
    exact inner.group
  | group joiner terms =>
    rw [predicate?] at said
    obtain ⟨predicates, found, joins⟩ := Option.bind_eq_some_iff.mp said
    rw [fragment]
    exact expresses_group (expresses_termFragments terms found) joins

theorem expresses_termFragments (terms : List Condition) {predicates : List Predicate}
    (found : predicates? terms = some predicates) :
    List.Forall₂ (Fragment.Expresses .primary) (termFragments terms) predicates := by
  cases terms with
  | nil =>
    rw [predicates?] at found
    cases found
    rw [termFragments]
    exact .nil
  | cons term rest =>
    rw [predicates?] at found
    obtain ⟨first, said, later⟩ := Option.bind_eq_some_iff.mp found
    obtain ⟨others, listed, rfl⟩ := Option.map_eq_some_iff.mp later
    rw [termFragments]
    exact .cons (expresses_fragment term said) (expresses_termFragments rest listed)

end

theorem exists_predicates {terms : List Condition}
    (each : ∀ term ∈ terms, ∃ predicate, term.predicate? = some predicate) :
    ∃ predicates, predicates? terms = some predicates ∧ predicates.length = terms.length := by
  induction terms with
  | nil => exact ⟨[], by rw [predicates?], rfl⟩
  | cons term rest ih =>
    obtain ⟨⟨first, said⟩, others⟩ := List.forall_mem_cons.mp each
    obtain ⟨predicates, found, same⟩ := ih others
    refine ⟨first :: predicates, ?_, by rw [List.length_cons, same, List.length_cons]⟩
    rw [predicates?, said, Option.bind_some, found]
    rfl

/-- A group with terms says something. -/
theorem exists_predicate_of_group (joiner : Joiner) {terms : List Condition} (nonempty : terms ≠ [])
    (each : ∀ term ∈ terms, ∃ predicate, term.predicate? = some predicate) :
    ∃ predicate, (group joiner terms).predicate? = some predicate := by
  obtain ⟨predicates, found, same⟩ := exists_predicates each
  rw [predicate?, found, Option.bind_some]
  cases predicates with
  | nil => exact absurd (List.length_eq_zero_iff.mp same.symm) nonempty
  | cons first rest => exact ⟨_, rfl⟩

/-- Every expression that is read says something. -/
theorem exists_predicate_of_parseGroup {table : String} {joiner : Joiner} {text : List Char}
    {condition : Condition} (read : parseGroup table joiner text = .ok condition) :
    ∃ predicate, condition.predicate? = some predicate := by
  refine parseGroup_holds ?_ exists_predicate_of_group read
  intro column test
  exact ⟨test.predicate column, by rw [predicate?]⟩

end Condition

/-! ## Filters -/

namespace Filter

/-- What a filter says, if its names and its expression are right. -/
def predicate? (table : String) : Filter → Option Predicate
  | .compare comparison column value =>
    (ColumnRef.ofNames table column).toOption.map (.test · (.compare comparison value))
  | .is column value =>
    (Truth.ofJson value).toOption.bind fun truth =>
      (ColumnRef.ofNames table column).toOption.map (.test · (.is truth))
  | .among _ [] => some .never
  | .among column values => (ColumnRef.ofNames table column).toOption.map (.test · (.among values))
  | .any expression => (Condition.parse table expression).toOption.bind Condition.predicate?

theorem testClause_eq_ok {table column : String} {test : Test} {fragment : Fragment}
    (written : (testClause table column test).result = .ok fragment) :
    ∃ ref, ColumnRef.ofNames table column = .ok ref ∧
      fragment = Fragment.ident ref.table ++ Fragment.text "." ++ Fragment.ident ref.column ++
        test.suffix := by
  obtain ⟨named, suffix, qualified, tested, rfl⟩ := Clause.result_append_eq_ok.mp written
  obtain ⟨pointed, last, first, second, rfl⟩ := Clause.result_append_eq_ok.mp qualified
  obtain ⟨owner, point, third, fourth, rfl⟩ := Clause.result_append_eq_ok.mp first
  rw [Clause.ident, Clause.result_ofExcept, map_eq_ok_iff] at third second
  obtain ⟨tableName, foundTable, rfl⟩ := third
  obtain ⟨columnName, foundColumn, rfl⟩ := second
  cases fourth
  cases tested
  refine ⟨⟨tableName, columnName⟩, ?_, rfl⟩
  rw [ColumnRef.ofNames, foundTable, foundColumn]
  rfl

/-- A filter on one column. -/
theorem expresses_testClause {table column : String} {test : Test} {fragment : Fragment}
    (written : (testClause table column test).result = .ok fragment) (tested : test ≠ .among []) :
    ∃ ref, ColumnRef.ofNames table column = .ok ref ∧
      Fragment.Expresses .primary fragment (.test ref test) := by
  obtain ⟨ref, named, rfl⟩ := testClause_eq_ok written
  refine ⟨ref, named, ?_⟩
  rw [← Test.predicate_of_ne tested]
  exact Test.expresses_column tested (ColumnRef.means_ident ref.table ref.column)

/-- A filter is one primary expression. -/
theorem expresses_clause {table : String} {filter : Filter} {fragment : Fragment}
    (written : (clause table filter).result = .ok fragment) :
    ∃ predicate, filter.predicate? table = some predicate ∧
      Fragment.Expresses .primary fragment predicate := by
  unfold clause at written
  split at written
  · obtain ⟨ref, named, expresses⟩ := expresses_testClause written (by rintro ⟨⟩)
    exact ⟨_, by rw [predicate?, named]; rfl, expresses⟩
  · split at written
    · rename_i truth read
      obtain ⟨ref, named, expresses⟩ := expresses_testClause written (by rintro ⟨⟩)
      exact ⟨_, by rw [predicate?, read, named]; rfl, expresses⟩
    · cases written
  · split at written
    · cases written
      exact ⟨.never, rfl, Test.expresses_false⟩
    · cases written
  · rename_i column values nonempty
    have tested : Test.among values ≠ .among [] := by
      rintro ⟨⟩
      exact nonempty rfl
    obtain ⟨ref, named, expresses⟩ := expresses_testClause written tested
    refine ⟨_, ?_, expresses⟩
    rw [predicate?, named]
    · rfl
    · exact nonempty
  · rename_i expression
    rw [Clause.result_ofExcept, map_eq_ok_iff] at written
    obtain ⟨condition, read, rfl⟩ := written
    obtain ⟨predicate, said⟩ := Condition.exists_predicate_of_parseGroup read
    refine ⟨predicate, ?_, condition.expresses_fragment said⟩
    rw [predicate?, read]
    exact said

/-- What filters are written as, and what they say, one by one. -/
theorem expresses_clauses {table : String} {filters : List Filter} {fragments : List Fragment}
    (written : List.Forall₂ (fun filter fragment => (clause table filter).result = .ok fragment) filters
      fragments) :
    ∃ predicates, List.Forall₂ (Fragment.Expresses .primary) fragments predicates ∧
      List.Forall₂ (fun filter predicate => filter.predicate? table = some predicate ∧
        ∃ own, (clause table filter).result = .ok own ∧ Fragment.Expresses .primary own predicate)
        filters predicates := by
  induction written with
  | nil => exact ⟨[], .nil, .nil⟩
  | @cons filter fragment filters fragments written _ ih =>
    obtain ⟨predicate, said, expresses⟩ := expresses_clause written
    obtain ⟨predicates, each, alone⟩ := ih
    exact ⟨predicate :: predicates, .cons expresses each,
      .cons ⟨said, fragment, written, expresses⟩ alone⟩

theorem whereClause_eq_ok {table : String} {filters : List Filter} (nonempty : filters ≠ [])
    {fragment : Fragment} (written : (whereClause table filters).result = .ok fragment) :
    ∃ fragments, List.Forall₂ (fun filter fragment => (clause table filter).result = .ok fragment)
        filters fragments ∧
      fragment = Fragment.text " WHERE " ++ Fragment.separated " AND " fragments := by
  have unfolded : whereClause table filters =
      .text " WHERE " ++ .separated " AND " (filters.map (clause table)) := by
    rw [whereClause]
    exact nonempty
  rw [unfolded] at written
  obtain ⟨word, body, first, second, rfl⟩ := Clause.result_append_eq_ok.mp written
  rw [Clause.result_separated, map_eq_ok_iff] at second
  obtain ⟨fragments, all, rfl⟩ := second
  cases first
  exact ⟨fragments, List.forall₂_map_left_iff.mp (mapM_eq_ok_iff.mp all), rfl⟩

/-- What a `WHERE` clause means, from what its filters express. -/
theorem means_whereClause {table : String} {filters : List Filter} {fragment : Fragment}
    (nonempty : filters ≠ []) (written : (whereClause table filters).result = .ok fragment) :
    ∃ predicates whole,
      List.Forall₂ (fun filter predicate => filter.predicate? table = some predicate ∧
        ∃ own, (clause table filter).result = .ok own ∧ Fragment.Expresses .primary own predicate)
        filters predicates ∧
      Predicate.joined .and predicates = some whole ∧
      Fragment.Means .token fragment .token fun values tokens =>
        ∃ rest, tokens = whereToken :: rest ∧ Parses values .disjunction rest whole := by
  obtain ⟨fragments, all, rfl⟩ := whereClause_eq_ok nonempty written
  obtain ⟨predicates, each, alone⟩ := expresses_clauses all
  cases each with
  | nil =>
    cases all
    exact absurd rfl nonempty
  | @cons _ first _ rest head tail =>
    have word : Fragment.Means .token (Fragment.text " WHERE ") .clear
        fun _ tokens => tokens = [whereToken] := Fragment.means_word _ (by decide)
    have body := (Fragment.expresses_separated_and head.conjunct tail).disjunct
    refine ⟨first :: rest, _, alone, rfl, word.append body ?_⟩
    rintro values _ tokens rfl parses
    exact ⟨tokens, rfl, parses⟩

/-- The main result: a `WHERE` clause, after any values and before any others, is read in one way
only, as the conjunction of what its filters say, each of which is read in the same way when it
stands alone. So it holds where all of them hold, fails where one of them fails, and always fails
where a column is to be among no values. -/
theorem whereClause_conjunction {table : String} {filters : List Filter} {fragment : Fragment}
    (nonempty : filters ≠ []) (written : (whereClause table filters).result = .ok fragment) :
    ∃ predicates whole,
      List.Forall₂ (fun filter predicate => filter.predicate? table = some predicate ∧
        ∃ own tokens, (clause table filter).result = .ok own ∧
          tokenise (Fragment.sql own) = some tokens ∧
          SaysOnly (Fragment.params own) tokens predicate) filters predicates ∧
      Predicate.joined .and predicates = some whole ∧
      (∀ earlier later : List Json, ∃ tokens,
        tokenise (Fragment.sqlFrom earlier.length fragment) = some (whereToken :: tokens) ∧
        SaysOnly (earlier ++ (Fragment.params fragment ++ later)) tokens whole) ∧
      (∀ facts,
        (whole.value facts = some true ↔ ∀ predicate ∈ predicates, predicate.value facts = some true) ∧
        (whole.value facts = some false ↔
          ∃ predicate ∈ predicates, predicate.value facts = some false)) ∧
      ∀ column, .among column [] ∈ filters → ∀ facts, whole.value facts = some false := by
  obtain ⟨predicates, whole, alone, joins, means⟩ := means_whereClause nonempty written
  refine ⟨predicates, whole, ?_, joins, ?_, ?_, ?_⟩
  · refine alone.imp ?_
    rintro filter predicate ⟨said, own, written, expresses⟩
    obtain ⟨tokens, read, only⟩ := expresses.alone
    exact ⟨said, own, tokens, written, read, only⟩
  · intro earlier later
    obtain ⟨_, spelled, -, tokens, rfl, parses⟩ := means.fromClear earlier later
    exact ⟨tokens, spelled.tokenise, parses.saysOnly⟩
  · intro facts
    exact ⟨Predicate.value_joinedAnd_eq_true_iff joins, Predicate.value_joinedAnd_eq_false_iff joins⟩
  · intro column present facts
    rw [Predicate.value_joinedAnd_eq_false_iff joins]
    obtain ⟨predicate, listed, said, -⟩ := exists_of_mem_forall₂ alone present
    cases said
    exact ⟨.never, listed, rfl⟩

end Filter

namespace Shelf

/-- Shelves that are for sale and have one of two properties, and whose number is one of none. -/
def filters : List Filter :=
  [.compare .eq "status" (.string "sale"), .any "name.ilike.%oak%,and(width.gt.3,row.in.(1,2))",
    .among "number" []]

/-- Among the alternatives of the second filter the others stay as they are. -/
theorem filters_conjunction :
    ∃ fragment predicates whole,
      (Filter.whereClause "shelves" filters).result = .ok fragment ∧
      Predicate.joined .and predicates = some whole ∧ predicates.length = 3 ∧
      (∀ earlier later : List Json, ∃ tokens,
        tokenise (Fragment.sqlFrom earlier.length fragment) = some (whereToken :: tokens) ∧
        SaysOnly (earlier ++ (Fragment.params fragment ++ later)) tokens whole) ∧
      ∀ facts, whole.value facts = some false := by
  have checked : (Filter.whereClause "shelves" filters).result.toBool = true := by decide +kernel
  cases written : (Filter.whereClause "shelves" filters).result with
  | error error =>
    rw [written] at checked
    cases checked
  | ok fragment =>
    obtain ⟨predicates, whole, alone, joins, reads, -, never⟩ :=
      Filter.whereClause_conjunction (by decide) written
    have each : predicates.length = 3 := alone.length_eq.symm
    have listed : Filter.among "number" [] ∈ filters := by simp [filters]
    exact ⟨fragment, predicates, whole, rfl, joins, each, reads, never "number" listed⟩

end Shelf

end FluentSql
