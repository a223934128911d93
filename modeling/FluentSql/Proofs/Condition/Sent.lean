import FluentSql.Condition.Filter
import FluentSql.Proofs.Condition.Written
import FluentSql.Proofs.Number.Plain
import FluentSql.Proofs.Statement.Clause
import FluentSql.Statement.Binding

/-!
# The texts that operands are sent as

The operand of a term is sent to the server as text. Some operators read numbers from operands, and
what they send for one is the number's own text. So `eq` and `in` send `7` for `007`, and `gt` sends
`1.5` for `1.50`, where a filter that is given the operand as a string sends it as it stands. All
else is sent as it stands in the term, between its quotes if it has them.

Results:
1. `Operator.sends_value`: what is sent for an operand, and when it is the operand's text.
2. `Operator.result_direct`: what is sent for the filter that is given the operand as a string.
3. `Condition.parseTerm_operator`: a term is read as a test of its operands, whatever they are.
4. `Condition.parse_sends`: what is sent for a term.
-/

namespace FluentSql

/-- The text that is sent for a value where the server expects text, and nothing for a null. -/
def Json.sent (value : Json) : Option String := value.encode (.scalar .text)

/-! ## Operators -/

/-- The operators that take operands. -/
inductive Operator where
  | compare (comparison : Comparison)
  | among

namespace Operator

def keyword : Operator → String
  | .compare comparison => comparison.keyword
  | .among => "in"

/-- A term: a column, an operator and what stands after its point. -/
def term (operator : Operator) (column : Identifier) (raw : List Char) : List Char :=
  column.name.toList ++ '.' :: (operator.keyword.toList ++ '.' :: raw)

/-- The operands of a term, without quotes: one, or those of a list in parentheses. -/
def operandTexts (operator : Operator) (raw : List Char) : Except Error (List (List Char)) :=
  match operator with
  | .compare _ => .ok [Operand.unquoted raw]
  | .among =>
    match parenthesised? (Operand.unquoted raw) with
    | some body => (segments body).map (·.map Operand.unquoted)
    | none => .error (.parse (.listOperand (String.ofList (Operand.unquoted raw))))

/-- The operator takes the operand `null` for an SQL null. -/
def takesNull : Operator → Bool
  | .compare .eq | .among => true
  | .compare _ => false

/-- The operands that are bound. For `eq` and `null` there is none. -/
def bound (operator : Operator) (texts : List (List Char)) : List (List Char) :=
  match operator with
  | .compare .eq => texts.filter (· ≠ "null".toList)
  | _ => texts

/-- The number that the operator reads from an operand. -/
def number? (operator : Operator) (text : List Char) : Option Number :=
  match operator with
  | .compare .eq | .among => (int64? text).map .int
  | .compare .gt | .compare .gte | .compare .lt | .compare .lte =>
    match int64? text with
    | some n => some (.int n)
    | none => (binary64? text).map .float
  | .compare .neq | .compare .like | .compare .ilike => none

/-- The operator reads a number that is written in another way than its own: an integer that is not
plain, or another number that has another text. -/
def Rewrites (operator : Operator) (text : List Char) : Prop :=
  (∃ n, operator.number? text = some (.int n) ∧ ¬ IsPlainInteger text) ∨
    ∃ x, operator.number? text = some (.float x) ∧ x.text ≠ String.ofList text

/-- What is sent for an operand. -/
structure Sends (operator : Operator) (text : List Char) (sent : Option String) : Prop where
  null : sent = none ↔ operator.takesNull = true ∧ text = "null".toList
  kept : sent = some (String.ofList text) ↔ sent ≠ none ∧ ¬ operator.Rewrites text
  number : ∀ number, operator.number? text = some number → sent = some number.text
  /-- An integer stays the integer it is. -/
  integer : ∀ n, operator.number? text = some (.int n) →
    ∃ other, sent = some other ∧ int64? other.toList = some n

/-! ## Values -/

/-- The value of an operand. -/
def value (operator : Operator) (text : List Char) : Json :=
  match operator with
  | .compare comparison => comparison.operand text
  | .among => Operand.typed text

end Operator

theorem Truth.keyword_of_ofText? {word : String} {truth : Truth}
    (found : Truth.ofText? word = some truth) : word = truth.keyword := by
  have listed : (word, truth) ∈ [("null", Truth.null), ("true", .yes), ("false", .no)] := by
    obtain ⟨before, after, split, -⟩ := List.lookup_eq_some_iff.mp found
    rw [split]
    exact List.mem_append_right before List.mem_cons_self
  simp only [List.mem_cons, Prod.mk.injEq, List.not_mem_nil, or_false] at listed
  rcases listed with ⟨rfl, rfl⟩ | ⟨rfl, rfl⟩ | ⟨rfl, rfl⟩ <;> rfl

theorem Operand.sent_typed (text : List Char) :
    (typed text).sent =
      if text = "null".toList then none
      else some ((((int64? text).map Number.int).map Number.text).getD (String.ofList text)) := by
  have word : text = (String.ofList text).toList := String.toList_ofList.symm
  unfold typed
  cases found : Truth.ofText? (String.ofList text) with
  | some truth =>
    have known := Truth.keyword_of_ofText? found
    rw [known] at word ⊢
    subst word
    cases truth <;> decide
  | none =>
    have other : text ≠ "null".toList := by
      rintro rfl
      exact absurd found (by decide)
    rw [if_neg other]
    dsimp only
    cases int64? text <;> rfl

theorem Operand.sent_numeric (text : List Char) :
    (numeric text).sent =
      some (((match int64? text with
        | some n => some (Number.int n)
        | none => (binary64? text).map .float).map Number.text).getD (String.ofList text)) := by
  unfold numeric
  cases int64? text with
  | some n => rfl
  | none => cases binary64? text <;> rfl

namespace Operator

/-- What is sent is the text of the number that is read, or else the operand. -/
theorem sent_value (operator : Operator) (text : List Char) :
    (operator.value text).sent =
      if operator.takesNull = true ∧ text = "null".toList then none
      else some (((operator.number? text).map Number.text).getD (String.ofList text)) := by
  cases operator with
  | among =>
    show (Operand.typed text).sent = _
    rw [Operand.sent_typed]
    simp only [takesNull, true_and, number?]
  | compare comparison =>
    cases comparison with
    | eq =>
      show (Operand.typed text).sent = _
      rw [Operand.sent_typed]
      simp only [takesNull, true_and, number?]
    | gt | gte | lt | lte => exact Operand.sent_numeric text
    | neq | like | ilike => rfl

/-- No operator reads a number from `null`. -/
theorem number?_null (operator : Operator) : operator.number? "null".toList = none := by
  cases operator with
  | among => decide
  | compare comparison => cases comparison <;> decide

theorem int64?_of_number? {operator : Operator} {text : List Char} {n : Int}
    (read : operator.number? text = some (.int n)) : int64? text = some n := by
  have ofInt (found : (int64? text).map Number.int = some (.int n)) : int64? text = some n := by
    obtain ⟨value, read, same⟩ := Option.map_eq_some_iff.mp found
    cases same
    exact read
  cases operator with
  | among => exact ofInt read
  | compare comparison =>
    cases comparison with
    | eq => exact ofInt read
    | gt | gte | lt | lte =>
      simp only [number?] at read
      split at read
      · rename_i found
        cases read
        exact found
      · obtain ⟨value, -, other⟩ := Option.map_eq_some_iff.mp read
        cases other
    | neq | like | ilike => cases read

/-- The text of the number is another than the operand just when the operator rewrites it. -/
theorem rewrites_iff {operator : Operator} {text : List Char} :
    operator.Rewrites text ↔
      ∃ number, operator.number? text = some number ∧ number.text ≠ String.ofList text := by
  have plain {n : Int} (read : operator.number? text = some (.int n)) :
      ¬ IsPlainInteger text ↔ (Number.int n).text ≠ String.ofList text := by
    rw [← intText_eq_iff (int64?_of_number? read), ne_eq, ← String.toList_inj, String.toList_ofList]
    rfl
  constructor
  · rintro (⟨n, read, other⟩ | ⟨x, read, other⟩)
    · exact ⟨_, read, (plain read).mp other⟩
    · exact ⟨_, read, other⟩
  · rintro ⟨number, read, other⟩
    cases number with
    | int n => exact .inl ⟨n, read, (plain read).mpr other⟩
    | float x => exact .inr ⟨x, read, other⟩

theorem sends_value (operator : Operator) (text : List Char) :
    operator.Sends text (operator.value text).sent := by
  rw [sent_value]
  split
  · rename_i absent
    obtain ⟨takes, rfl⟩ := absent
    have unread := operator.number?_null
    refine ⟨iff_of_true rfl ⟨takes, rfl⟩, iff_of_false nofun fun kept => kept.1 rfl, ?_, ?_⟩
    · intro number read
      rw [unread] at read
      cases read
    · intro n read
      rw [unread] at read
      cases read
  · rename_i present
    refine ⟨iff_of_false nofun present, ?_, ?_, ?_⟩
    · rw [rewrites_iff]
      cases operator.number? text with
      | none => simp
      | some number => simp
    · intro number read
      rw [read]
      rfl
    · intro n read
      rw [read]
      exact ⟨_, rfl, int64?_intText_of_int64? (int64?_of_number? read)⟩

/-! ## The filter of the same operands -/

/-- The filter that is given the operands of a term as strings. A comparison takes one. -/
def direct (column : Identifier) : Operator → List (List Char) → Option Filter
  | .compare comparison, [text] =>
    some (.compare comparison column.name (.string (String.ofList text)))
  | .compare _, _ => none
  | .among, texts => some (.among column.name (texts.map fun text => .string (String.ofList text)))

theorem result_testClause (table column : Identifier) (test : Test) :
    ∃ fragment, (Filter.testClause table.name column.name test).result = .ok fragment ∧
      Fragment.params fragment = test.operands := by
  refine ⟨Fragment.ident table ++ Fragment.text "." ++ Fragment.ident column ++ test.suffix, ?_, ?_⟩
  · simp only [Filter.testClause, Clause.qualified, Clause.ident, Clause.result_append,
      Clause.result_ofExcept, Identifier.ofName_name, map_ok, ok_bind, Clause.result_text,
      Clause.result_ofFragment]
  · simp only [Fragment.params_append, Fragment.params_ident, Fragment.params_text,
      List.nil_append, Test.params_suffix]

/-- It sends each of them as it stands. -/
theorem result_direct (table column : Identifier) {operator : Operator} {texts : List (List Char)}
    {filter : Filter} (given : operator.direct column texts = some filter) :
    ∃ fragment, (filter.clause table.name).result = .ok fragment ∧
      (Fragment.params fragment).map Json.sent = texts.map fun text => some (String.ofList text) := by
  unfold direct at given
  split at given
  · rename_i comparison text
    cases given
    obtain ⟨fragment, written, params⟩ :=
      result_testClause table column (.compare comparison (.string (String.ofList text)))
    exact ⟨fragment, written, by rw [params]; rfl⟩
  · cases given
  · cases given
    cases texts with
    | nil =>
      refine ⟨Fragment.text "false", ?_, rfl⟩
      rw [List.map_nil, Filter.clause, Identifier.ofName_name]
      rfl
    | cons text rest =>
      obtain ⟨fragment, written, params⟩ := result_testClause table column
        (.among ((text :: rest).map fun text => .string (String.ofList text)))
      refine ⟨fragment, written, ?_⟩
      rw [params, Test.operands, List.map_map]
      rfl

end Operator

/-! ## Terms -/

theorem Operand.typed_eq_null_iff {text : List Char} : typed text = .null ↔ text = "null".toList := by
  constructor
  · intro absent
    by_contra other
    have sent := sent_typed text
    rw [absent, if_neg other] at sent
    cases sent
  · rintro rfl
    rfl

namespace Operator

/-- An operator makes a test of its operands. -/
theorem ofOperator_eq {operator : Operator} {raw : List Char} {texts : List (List Char)}
    (listed : operator.operandTexts raw = .ok texts) (term : List Char) :
    ∃ test, Test.ofOperator term operator.keyword (Operand.unquoted raw) = .ok test ∧
      test.operands = (operator.bound texts).map operator.value := by
  cases operator with
  | compare comparison =>
    cases listed
    cases comparison with
    | eq =>
      by_cases absent : Operand.unquoted raw = "null".toList
      · rw [absent]
        exact ⟨.is .null, rfl, rfl⟩
      · refine ⟨.compare .eq (Operand.typed (Operand.unquoted raw)), ?_, ?_⟩
        · simp only [keyword, Comparison.keyword, Test.ofOperator]
          split
          · rename_i null
            exact absurd (Operand.typed_eq_null_iff.mp null) absent
          · rfl
        · simp only [bound, ne_eq, absent, not_false_eq_true, decide_true, List.filter_cons_of_pos,
            List.filter_nil]
          rfl
    | _ => exact ⟨_, rfl, rfl⟩
  | among =>
    unfold operandTexts at listed
    dsimp only at listed
    split at listed
    · rename_i body inner
      obtain ⟨items, split, rfl⟩ := map_eq_ok_iff.mp listed
      refine ⟨.among (items.map fun item => Operand.typed (Operand.unquoted item)), ?_, ?_⟩
      · show (Operand.listValues (Operand.unquoted raw)).map Test.among = _
        rw [Operand.listValues, inner]
        dsimp only
        rw [split]
        rfl
      · show items.map _ = (items.map Operand.unquoted).map _
        rw [List.map_map]
        rfl
    · cases listed

theorem point_not_mem_keyword (operator : Operator) : '.' ∉ operator.keyword.toList := by
  cases operator with
  | among => decide
  | compare comparison => cases comparison <;> decide

end Operator

/-- A term is read as a test of its operands, whatever stands after the operator. -/
theorem Condition.parseTerm_operator (table column : Identifier) {operator : Operator}
    {raw : List Char} {texts : List (List Char)} (listed : operator.operandTexts raw = .ok texts) :
    ∃ test, parseTerm table.name (operator.term column raw) = .ok (.test ⟨table, column⟩ test) ∧
      test.operands = (operator.bound texts).map operator.value := by
  obtain ⟨test, made, operands⟩ := operator.ofOperator_eq listed (operator.term column raw)
  refine ⟨test, ?_, operands⟩
  unfold Operator.term at made ⊢
  rw [parseTerm_column table column operator.point_not_mem_keyword, String.ofList_toList, made,
    map_ok]

/-- The main result: what is sent for the operands of a term, wherever the term stands, and for an
expression that has this term only; and that the filter of the same operands sends them all as they
stand. -/
theorem Condition.parse_sends (table column : Identifier) {operator : Operator} {raw : List Char}
    {texts : List (List Char)} (listed : operator.operandTexts raw = .ok texts) :
    ∃ test,
      parseTerm table.name (operator.term column raw) = .ok (.test ⟨table, column⟩ test) ∧
      (∀ expression : String, segments expression.toList = .ok [operator.term column raw] →
        parse table.name expression = .ok (.group .or [.test ⟨table, column⟩ test])) ∧
      List.Forall₂ operator.Sends (operator.bound texts)
        ((Fragment.params (test.fragment ⟨table, column⟩)).map Json.sent) ∧
      ∃ filter fragment, operator.direct column texts = some filter ∧
        (filter.clause table.name).result = .ok fragment ∧
        (Fragment.params fragment).map Json.sent = texts.map fun text => some (String.ofList text) := by
  obtain ⟨test, read, operands⟩ := parseTerm_operator table column listed
  refine ⟨test, read, ?_, ?_, ?_⟩
  · intro expression alone
    rw [parse, parseGroup_eq alone, List.mapM_cons, read]
    rfl
  · rw [Test.params_fragment, operands, List.map_map, List.forall₂_map_right_iff, List.forall₂_same]
    exact fun text _ => operator.sends_value text
  · obtain ⟨filter, given⟩ : ∃ filter, operator.direct column texts = some filter := by
      cases operator with
      | among => exact ⟨_, rfl⟩
      | compare comparison =>
        cases listed
        exact ⟨_, rfl⟩
    obtain ⟨fragment, written, sent⟩ := Operator.result_direct table column given
    exact ⟨filter, fragment, given, written, sent⟩

namespace Orders

def orders : Identifier := ⟨"orders", by decide⟩

def number : Identifier := ⟨"number", by decide⟩

theorem numbers_sent :
    Operator.among.operandTexts "(007,\"a,b\",null)".toList =
        .ok ["007".toList, "a,b".toList, "null".toList] ∧
      ∃ test,
        Condition.parseTerm orders.name
            (Operator.among.term number "(007,\"a,b\",null)".toList) =
          .ok (.test ⟨orders, number⟩ test) ∧
        List.Forall₂ Operator.among.Sends ["007".toList, "a,b".toList, "null".toList]
          ((Fragment.params (test.fragment ⟨orders, number⟩)).map Json.sent) := by
  have listed : Operator.among.operandTexts "(007,\"a,b\",null)".toList =
      .ok ["007".toList, "a,b".toList, "null".toList] := rfl
  obtain ⟨test, read, -, sent, -⟩ := Condition.parse_sends orders number listed
  exact ⟨listed, test, read, sent⟩

/-- The texts that are sent for an expression. -/
def sent (expression : String) : Option (List (Option String)) :=
  ((Condition.parse orders.name expression).map fun condition =>
    (Fragment.params condition.fragment).map Json.sent).toOption

/-- The texts that are sent for a filter. -/
def sentDirectly (filter : Filter) : Option (List (Option String)) :=
  ((filter.clause orders.name).result.map fun fragment =>
    (Fragment.params fragment).map Json.sent).toOption

/-- Zeros before an integer are not sent, and neither are those after a fraction. -/
theorem zeros_lost :
    sent "number.eq.007" = some [some "7"] ∧
      sentDirectly (.compare .eq "number" (.string "007")) = some [some "007"] ∧
      sent "number.gt.1.50" = some [some "1.5"] ∧
      sentDirectly (.compare .gt "number" (.string "1.50")) = some [some "1.50"] := by
  decide +kernel

end Orders

end FluentSql
