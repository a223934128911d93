import FluentSql.Proofs.Condition.Operands
import FluentSql.Proofs.Condition.Parse

/-!
# Written conditions

Trees of tests and groups, as a caller means them, and the filter expressions that stand for them:
every operand between double quotes, the terms separated by commas. `Written.rendered` says what
such a tree is to become in a statement, and `Written.operands` what is bound for it.

1. `Written.isSegment_text`: no term is cut, wherever it stands.
2. `Written.parseTerm_text`: a term is read as the condition it stands for, at every depth.
3. `Condition.parse_expression`: a written expression is rendered as its trees are meant.
-/

namespace FluentSql

/-! ## Trees -/

/-- An operand: any text without a double quote. -/
structure OperandText where
  text : List Char
  quoteless : '"' ∉ text

/-- What is asked of a column. -/
inductive WrittenTest where
  | compare (comparison : Comparison) (operand : OperandText)
  | is (truth : Truth)
  | among (operands : List OperandText)

/-- A tree of tests. A group has at least one member. -/
inductive Written where
  | leaf (column : Identifier) (test : WrittenTest)
  | group (joiner : Joiner) (first : Written) (rest : List Written)

/-! ## The expression -/

/-- The operator for a comparison. -/
def Comparison.keyword : Comparison → String
  | .eq => "eq"
  | .neq => "neq"
  | .gt => "gt"
  | .gte => "gte"
  | .lt => "lt"
  | .lte => "lte"
  | .like => "like"
  | .ilike => "ilike"

/-- The operand for a truth. -/
def Truth.keyword : Truth → String
  | .null => "null"
  | .yes => "true"
  | .no => "false"

/-- A text between double quotes. -/
def inQuotes (text : List Char) : List Char := '"' :: (text ++ ['"'])

namespace WrittenTest

/-- The operator of a test. -/
def keyword : WrittenTest → String
  | .compare comparison _ => comparison.keyword
  | .is _ => "is"
  | .among _ => "in"

/-- The operand of a test, or the list of its operands in parentheses. -/
def operandText : WrittenTest → List Char
  | .compare _ operand => inQuotes operand.text
  | .is truth => inQuotes truth.keyword.toList
  | .among operands =>
    '(' :: ([','].intercalate (operands.map fun operand => inQuotes operand.text) ++ [')'])

end WrittenTest

namespace Written

mutual

/-- The term for a tree. -/
def text : Written → List Char
  | .leaf column test =>
    column.name.toList ++ '.' :: (test.keyword.toList ++ '.' :: test.operandText)
  | .group joiner first rest =>
    joiner.keyword.toList ++ '(' :: ([','].intercalate (first.text :: texts rest) ++ [')'])

/-- The terms for trees. -/
def texts : List Written → List (List Char)
  | [] => []
  | tree :: rest => tree.text :: texts rest

end

/-- The filter expression for trees. -/
def expression (trees : List Written) : String :=
  String.ofList ([','].intercalate (texts trees))

example :
    expression
        [.leaf ⟨"title", by decide⟩ (.compare .ilike ⟨"b, and(c)".toList, by decide⟩),
          .group .and (.leaf ⟨"size", by decide⟩ (.among [])) [.leaf ⟨"sold", by decide⟩ (.is .no)]] =
      "title.ilike.\"b, and(c)\",and(size.in.(),sold.is.\"false\")" := by
  decide

end Written

/-! ## Its meaning -/

/-- The value of an operand: whatever it reads as for `eq`, a number if it is one for an order, the
text itself otherwise. -/
def Comparison.operand (comparison : Comparison) (text : List Char) : Json :=
  match comparison with
  | .eq => Operand.typed text
  | .gt | .gte | .lt | .lte => Operand.numeric text
  | .neq | .like | .ilike => .string (String.ofList text)

/-- What stands between a column and the value it is compared with. -/
def Comparison.sign : Comparison → String
  | .eq => " = "
  | .neq => " != "
  | .gt => " > "
  | .gte => " >= "
  | .lt => " < "
  | .lte => " <= "
  | .like => " LIKE "
  | .ilike => " ILIKE "

namespace WrittenTest

/-- The values that are bound for a test. Nothing is bound for a comparison with `null`. -/
def operands : WrittenTest → List Json
  | .compare .eq operand =>
    if (Operand.typed operand.text).isNull then [] else [Operand.typed operand.text]
  | .compare comparison operand => [comparison.operand operand.text]
  | .is _ => []
  | .among operands => operands.map fun operand => Operand.typed operand.text

/-- A test of a column in a statement. -/
def rendered (column : ColumnRef) : WrittenTest → Fragment
  | .compare .eq operand =>
    if (Operand.typed operand.text).isNull then [.text column.sql, .text " IS NULL"]
    else [.text column.sql, .text " = ", .bound (Operand.typed operand.text)]
  | .compare comparison operand =>
    [.text column.sql, .text comparison.sign, .bound (comparison.operand operand.text)]
  | .is .null => [.text column.sql, .text " IS NULL"]
  | .is .yes => [.text column.sql, .text " IS TRUE"]
  | .is .no => [.text column.sql, .text " IS FALSE"]
  | .among [] => [.text "false"]
  | .among operands =>
    .text column.sql :: .text " IN (" ::
      (Fragment.boundList (operands.map fun operand => Operand.typed operand.text) ++ [.text ")"])

end WrittenTest

/-- What stands between the members of a group. -/
def Joiner.between : Joiner → String
  | .and => " AND "
  | .or => " OR "

namespace Written

mutual

/-- The values that are bound for a tree, from left to right. -/
def operands : Written → List Json
  | .leaf _ test => test.operands
  | .group _ first rest => first.operands ++ operandsAll rest

/-- The values that are bound for trees, from left to right. -/
def operandsAll : List Written → List Json
  | [] => []
  | tree :: rest => tree.operands ++ operandsAll rest

end

mutual

/-- A tree in a statement: every test and every group in parentheses of its own. -/
def rendered (table : Identifier) : Written → Fragment
  | .leaf column test => .text "(" :: (test.rendered ⟨table, column⟩ ++ [.text ")"])
  | .group joiner first rest =>
    .text "(" ::
      (Fragment.separated joiner.between (first.rendered table :: renderedAll table rest) ++
        [.text ")"])

/-- Trees in a statement. -/
def renderedAll (table : Identifier) : List Written → List Fragment
  | [] => []
  | tree :: rest => tree.rendered table :: renderedAll table rest

end

/-- An expression in a statement: alternatives, in one pair of parentheses. -/
def renderedExpression (table : Identifier) (trees : List Written) : Fragment :=
  .text "(" :: (Fragment.separated " OR " (renderedAll table trees) ++ [.text ")"])

end Written

/-! ## Terms are segments -/

theorem Identifier.isNameChar_of_mem (column : Identifier) :
    ∀ c ∈ column.name.toList, isNameChar c = true :=
  isNameChar_of_isSimpleName column.simple

theorem Closed.inQuotes {text : List Char} (quoteless : '"' ∉ text) : Closed (inQuotes text) :=
  Closed.quoted quoteless

theorem isSegment_inQuotes {text : List Char} (quoteless : '"' ∉ text) :
    IsSegment (inQuotes text) where
  closed := Closed.inQuotes quoteless
  trimmed := ⟨⟨'"', _, rfl, by decide⟩, '"' :: text, '"', rfl, by decide⟩

namespace WrittenTest

theorem closed_operandText (test : WrittenTest) : Closed test.operandText := by
  cases test with
  | compare comparison operand => exact Closed.inQuotes operand.quoteless
  | is truth => exact Closed.inQuotes (by cases truth <;> decide)
  | among operands =>
    apply Closed.parenthesised
    intro part present
    obtain ⟨operand, -, rfl⟩ := List.mem_map.mp present
    exact Closed.inQuotes operand.quoteless

/-- An operand ends with a quote or with a parenthesis. -/
theorem operandText_ends (test : WrittenTest) :
    ∃ rest c, test.operandText = rest ++ [c] ∧ isBlank c = false := by
  cases test with
  | compare comparison operand => exact ⟨'"' :: operand.text, '"', rfl, by decide⟩
  | is truth => exact ⟨'"' :: truth.keyword.toList, '"', rfl, by decide⟩
  | among operands => exact ⟨'(' :: _, ')', rfl, by decide⟩

/-- The operators of the language. -/
def operators : List String := ["eq", "neq", "gt", "gte", "lt", "lte", "like", "ilike", "is", "in"]

theorem keyword_mem_operators (test : WrittenTest) : test.keyword ∈ operators := by
  cases test with
  | compare comparison operand => cases comparison <;> simp [keyword, operators, Comparison.keyword]
  | is truth => simp [keyword, operators]
  | among operands => simp [keyword, operators]

theorem isFlat_of_mem_keyword (test : WrittenTest) : ∀ c ∈ test.keyword.toList, isFlat c = true := by
  have all : ∀ word ∈ operators, word.toList.all isFlat = true := by decide
  exact List.all_eq_true.mp (all _ test.keyword_mem_operators)

theorem point_not_mem_keyword (test : WrittenTest) : '.' ∉ test.keyword.toList := by
  have all : ∀ word ∈ operators, '.' ∉ word.toList := by decide
  exact all _ test.keyword_mem_operators

end WrittenTest

namespace Written

theorem closed_leaf (column : Identifier) (test : WrittenTest) :
    Closed (text (.leaf column test)) := by
  have name : Closed column.name.toList :=
    Closed.flat fun c present => isFlat_of_isNameChar (column.isNameChar_of_mem c present)
  have keyword : Closed test.keyword.toList := Closed.flat test.isFlat_of_mem_keyword
  rw [text]
  exact name.append (keyword.append test.closed_operandText.point).point

theorem closed_keyword (joiner : Joiner) : Closed joiner.keyword.toList :=
  Closed.flat (List.all_eq_true.mp (by cases joiner <;> decide))

mutual

theorem closed_text : ∀ tree : Written, Closed tree.text
  | .leaf column test => closed_leaf column test
  | .group joiner first rest => by
    rw [text]
    apply (closed_keyword joiner).append
    apply Closed.parenthesised
    intro part present
    rcases List.mem_cons.mp present with rfl | later
    · exact closed_text first
    · exact closed_texts rest part later

theorem closed_texts : ∀ trees : List Written, ∀ part ∈ texts trees, Closed part
  | [], _, present => by cases present
  | tree :: rest, part, present => by
    rw [texts, List.mem_cons] at present
    rcases present with rfl | later
    · exact closed_text tree
    · exact closed_texts rest part later

end

theorem trimmed_text (tree : Written) : Trimmed tree.text := by
  cases tree with
  | leaf column test =>
    obtain ⟨c, name, chars, named⟩ := exists_of_isSimpleName column.simple
    obtain ⟨front, last, operand, ending⟩ := test.operandText_ends
    rw [text, chars, operand]
    refine ⟨⟨c, _, rfl, isBlank_eq_false_of_isNameChar named⟩,
      c :: (name ++ '.' :: (test.keyword.toList ++ '.' :: front)), last, ?_, ending⟩
    simp only [List.cons_append, List.append_assoc]
  | group joiner first rest =>
    rw [text]
    refine ⟨?_, joiner.keyword.toList ++ '(' :: [','].intercalate (first.text :: texts rest), ')',
      by simp, by decide⟩
    cases joiner with
    | and => exact ⟨'a', _, rfl, by decide⟩
    | or => exact ⟨'o', _, rfl, by decide⟩

theorem isSegment_text (tree : Written) : IsSegment tree.text :=
  ⟨closed_text tree, trimmed_text tree⟩

theorem isSegment_of_mem_texts {trees : List Written} :
    ∀ part ∈ texts trees, IsSegment part := by
  induction trees with
  | nil => simp [texts]
  | cons tree rest ih =>
    intro part present
    rw [texts, List.mem_cons] at present
    rcases present with rfl | later
    · exact isSegment_text tree
    · exact ih part later

end Written

/-! ## Terms are read as they are meant -/

namespace WrittenTest

/-- The test that is meant. -/
def test : WrittenTest → Test
  | .compare .eq operand =>
    match Operand.typed operand.text with
    | .null => .is .null
    | value => .compare .eq value
  | .compare comparison operand => .compare comparison (comparison.operand operand.text)
  | .is truth => .is truth
  | .among operands => .among (operands.map fun operand => Operand.typed operand.text)

theorem unquoted_inQuotes (text : List Char) : Operand.unquoted (inQuotes text) = text :=
  Operand.unquoted_quoted text

theorem listValues_operands (operands : List OperandText) :
    Operand.listValues
        ('(' :: ([','].intercalate (operands.map fun operand => inQuotes operand.text) ++ [')'])) =
      .ok (operands.map fun operand => Operand.typed operand.text) := by
  have each : ∀ part ∈ operands.map fun operand => inQuotes operand.text, IsSegment part := by
    intro part present
    obtain ⟨operand, -, rfl⟩ := List.mem_map.mp present
    exact isSegment_inQuotes operand.quoteless
  rw [Operand.listValues, parenthesised?_eq]
  simp only [segments_intercalate each, map_ok, List.map_map]
  simp only [Function.comp_def, unquoted_inQuotes]

theorem ofOperator_eq (term : List Char) (test : WrittenTest) :
    Test.ofOperator term test.keyword (Operand.unquoted test.operandText) = .ok test.test := by
  cases test with
  | compare comparison operand =>
    rw [operandText, unquoted_inQuotes]
    cases comparison with
    | eq =>
      simp only [keyword, Comparison.keyword, Test.ofOperator, WrittenTest.test]
      split <;> simp_all
    | _ => rfl
  | is truth =>
    rw [operandText, unquoted_inQuotes]
    cases truth <;> rfl
  | among operands =>
    -- The list begins with a parenthesis, so no quotes are taken from it.
    show (Operand.listValues (operandText (.among operands))).map Test.among = _
    rw [operandText, listValues_operands]
    rfl

end WrittenTest

namespace Written

mutual

/-- The condition that is meant. -/
def condition (table : Identifier) : Written → Condition
  | .leaf column test => .test ⟨table, column⟩ test.test
  | .group joiner first rest => .group joiner (first.condition table :: conditions table rest)

/-- The conditions that are meant. -/
def conditions (table : Identifier) : List Written → List Condition
  | [] => []
  | tree :: rest => tree.condition table :: conditions table rest

end

theorem parseTerm_leaf (table column : Identifier) (test : WrittenTest) :
    Condition.parseTerm table.name (text (.leaf column test)) =
      .ok (.test ⟨table, column⟩ test.test) := by
  rw [text, Condition.parseTerm_column table column test.point_not_mem_keyword,
    String.ofList_toList, WrittenTest.ofOperator_eq, map_ok]

/-- The terms of a group are read from the text between its parentheses. -/
theorem parseGroup_texts {table : Identifier} {first : Written} {rest : List Written}
    (joiner : Joiner)
    (read : (texts (first :: rest)).mapM (Condition.parseTerm table.name) =
      .ok (conditions table (first :: rest))) :
    Condition.parseGroup table.name joiner ([','].intercalate (texts (first :: rest))) =
      .ok (.group joiner (conditions table (first :: rest))) := by
  have each : ∀ part ∈ texts (first :: rest), IsSegment part := isSegment_of_mem_texts
  have split := segments_intercalate each
  rw [texts] at split read ⊢
  rw [Condition.parseGroup_eq split, read, map_ok]

theorem mapM_parseTerm_cons {table : Identifier} {tree : Written} {rest : List Written}
    (one : Condition.parseTerm table.name tree.text = .ok (tree.condition table))
    (others : (texts rest).mapM (Condition.parseTerm table.name) = .ok (conditions table rest)) :
    (texts (tree :: rest)).mapM (Condition.parseTerm table.name) =
      .ok (conditions table (tree :: rest)) := by
  rw [texts, List.mapM_cons, one, ok_bind, others, ok_bind]
  rfl

mutual

/-- A term is read as the condition that is meant, however deep it is nested. -/
theorem parseTerm_text (table : Identifier) :
    ∀ tree : Written, Condition.parseTerm table.name tree.text = .ok (tree.condition table)
  | .leaf column test => parseTerm_leaf table column test
  | .group joiner first rest => by
    have read := mapM_parseTerm_cons (parseTerm_text table first) (mapM_parseTerm_texts table rest)
    -- Between the parentheses of a group stands the list of its members, each of them smaller.
    rw [Condition.parseTerm, text, groupOf?_group]
    exact parseGroup_texts joiner read

theorem mapM_parseTerm_texts (table : Identifier) :
    ∀ trees : List Written,
      (texts trees).mapM (Condition.parseTerm table.name) = .ok (conditions table trees)
  | [] => rfl
  | tree :: rest => mapM_parseTerm_cons (parseTerm_text table tree) (mapM_parseTerm_texts table rest)

end

/-! ## Conditions are rendered as they are meant -/

theorem parenthesised_eq (fragment : Fragment) :
    Condition.parenthesised fragment = .text "(" :: (fragment ++ [.text ")"]) := rfl

theorem joiner_sql (joiner : Joiner) : joiner.sql = joiner.between := by
  cases joiner <;> rfl

theorem comparison_sql (comparison : Comparison) : " " ++ comparison.sql ++ " " = comparison.sign := by
  cases comparison <;> decide

theorem fragment_test (column : ColumnRef) (test : WrittenTest) :
    test.test.fragment column = test.rendered column := by
  have compared (comparison : Comparison) (value : Json) :
      (Test.compare comparison value).fragment column =
        [.text column.sql, .text comparison.sign, .bound value] := by
    rw [← comparison_sql]
    rfl
  cases test with
  | compare comparison operand =>
    cases comparison with
    | eq =>
      simp only [WrittenTest.test, WrittenTest.rendered]
      cases Operand.typed operand.text <;> first | exact compared _ _ | rfl
    | _ => exact compared _ _
  | is truth => cases truth <;> rfl
  | among operands => cases operands <;> rfl

mutual

theorem fragment_condition (table : Identifier) :
    ∀ tree : Written, (tree.condition table).fragment = tree.rendered table
  | .leaf column test => by
    rw [condition, Condition.fragment, fragment_test, parenthesised_eq, rendered]
  | .group joiner first rest => by
    rw [condition, Condition.fragment, Condition.termFragments, fragment_condition table first,
      termFragments_conditions table rest, joiner_sql, parenthesised_eq, rendered]

theorem termFragments_conditions (table : Identifier) :
    ∀ trees : List Written,
      Condition.termFragments (conditions table trees) = renderedAll table trees
  | [] => rfl
  | tree :: rest => by
    rw [conditions, Condition.termFragments, fragment_condition table tree,
      termFragments_conditions table rest, renderedAll]

end

/-! ## What is bound is what is meant -/

theorem operands_test (test : WrittenTest) : test.test.operands = test.operands := by
  cases test with
  | compare comparison operand =>
    cases comparison with
    | eq =>
      simp only [WrittenTest.test, WrittenTest.operands]
      cases Operand.typed operand.text <;> rfl
    | _ => rfl
  | is truth => rfl
  | among operands => rfl

mutual

theorem operands_condition (table : Identifier) :
    ∀ tree : Written, (tree.condition table).operands = tree.operands
  | .leaf column test => by
    rw [condition, Condition.operands, operands_test, operands]
  | .group joiner first rest => by
    rw [condition, Condition.operands, Condition.termOperands, operands_condition table first,
      termOperands_conditions table rest, operands]

theorem termOperands_conditions (table : Identifier) :
    ∀ trees : List Written, Condition.termOperands (conditions table trees) = operandsAll trees
  | [] => rfl
  | tree :: rest => by
    rw [conditions, Condition.termOperands, operands_condition table tree,
      termOperands_conditions table rest, operandsAll]

end

end Written

/-- The main result: an expression that is written for trees is read, its fragment is the one that
the trees are to become, and what is bound are their operands from left to right. -/
theorem Condition.parse_expression (table : Identifier) (first : Written) (rest : List Written) :
    ∃ condition, Condition.parse table.name (Written.expression (first :: rest)) = .ok condition ∧
      condition.fragment = Written.renderedExpression table (first :: rest) ∧
      Fragment.params condition.fragment = Written.operandsAll (first :: rest) := by
  have read := Written.parseGroup_texts .or (Written.mapM_parseTerm_texts table (first :: rest))
  have rendered : (Condition.group .or (Written.conditions table (first :: rest))).fragment =
      Written.renderedExpression table (first :: rest) := by
    rw [Condition.fragment, Written.termFragments_conditions, Written.parenthesised_eq,
      Written.renderedExpression]
    rfl
  refine ⟨_, ?_, rendered, ?_⟩
  · rw [Condition.parse, Written.expression, String.toList_ofList, read]
  · rw [Condition.params_fragment, Condition.operands, Written.termOperands_conditions]

end FluentSql
