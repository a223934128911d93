import FluentSql.Condition.Basic
import FluentSql.Selection.Parse

/-!
# Filter expressions

The text form of conditions: terms separated by commas, each of the form `column.operator.operand`
or a group `and(…)` or `or(…)`. An operand between double quotes may contain commas. Operands are
texts; `eq` and `in` read booleans, integers and `null` from them, and the order comparisons read
numbers.
-/

namespace FluentSql

namespace Operand

/-- An operand without the double quotes around it. -/
def unquoted (text : List Char) : List Char :=
  match text with
  | '"' :: rest => if rest.getLast? = some '"' then rest.dropLast else text
  | _ => text

/-- The value of an operand: a boolean, `null` or an integer where it reads as one, else its text.
-/
def typed (text : List Char) : Json :=
  match Truth.ofText? (String.ofList text) with
  | some .null => .null
  | some .yes => .bool true
  | some .no => .bool false
  | none =>
    match int64? text with
    | some value => .int value
    | none => .string (String.ofList text)

/-- The value of an operand that is compared by order: a number where it reads as one, else its
text. -/
def numeric (text : List Char) : Json :=
  match int64? text with
  | some value => .int value
  | none =>
    match binary64? text with
    | some value => .number (.float value)
    | none => .string (String.ofList text)

/-- The values of a list in parentheses. -/
def listValues (text : List Char) : Except Error (List Json) :=
  match parenthesised? text with
  | some body => (segments body).map (·.map fun item => typed (unquoted item))
  | none => .error (.parse (.listOperand (String.ofList text)))

end Operand

/-- The parts of a term `column.operator.operand`; the operand may contain points. -/
structure TermText where
  column : List Char
  operator : List Char
  operand : List Char
deriving DecidableEq, Repr

/-- The text before the first point, and the text after it. -/
def splitPoint? (text : List Char) : Option (List Char × List Char) :=
  match text.dropWhile (· != '.') with
  | [] => none
  | _ :: rest => some (text.takeWhile (· != '.'), rest)

/-- The parts of a term. -/
def TermText.ofText? (term : List Char) : Option TermText := do
  let (column, rest) ← splitPoint? term
  let (operator, operand) ← splitPoint? rest
  some ⟨column, operator, operand⟩

/-- The test that an operator makes of an operand. -/
def Test.ofOperator (term : List Char) (operator : String) (operand : List Char) :
    Except Error Test :=
  let text := String.ofList operand
  match operator with
  | "eq" =>
    match Operand.typed operand with
    | .null => .ok (.is .null)
    | value => .ok (.compare .eq value)
  | "neq" => .ok (.compare .neq (.string text))
  | "gt" => .ok (.compare .gt (Operand.numeric operand))
  | "gte" => .ok (.compare .gte (Operand.numeric operand))
  | "lt" => .ok (.compare .lt (Operand.numeric operand))
  | "lte" => .ok (.compare .lte (Operand.numeric operand))
  | "like" => .ok (.compare .like (.string text))
  | "ilike" => .ok (.compare .ilike (.string text))
  | "is" =>
    match Truth.ofText? text with
    | some truth => .ok (.is truth)
    | none => .error (.parse (.truthText text))
  | "in" => (Operand.listValues operand).map .among
  | other => .error (.parse (.unknownOperator other (String.ofList term)))

/-- The text after a keyword. -/
def afterKeyword? : (keyword text : List Char) → Option (List Char)
  | [], text => some text
  | k :: keyword, c :: text => if k = c then afterKeyword? keyword text else none
  | _ :: _, [] => none

/-- The body of a term that is a group with a keyword. -/
def groupBody? (keyword term : List Char) : Option (List Char) :=
  (afterKeyword? keyword term).bind fun rest => parenthesised? (trimLeft rest)

/-- The joiner and the body of a term that is a group. -/
def groupOf? (term : List Char) : Option (Joiner × List Char) :=
  match groupBody? "and".toList term with
  | some body => some (.and, body)
  | none => (groupBody? "or".toList term).map fun body => (.or, body)

theorem length_le_of_afterKeyword? {keyword text rest : List Char}
    (h : afterKeyword? keyword text = some rest) : rest.length ≤ text.length := by
  induction keyword generalizing text with
  | nil =>
    simp only [afterKeyword?, Option.some.injEq] at h
    subst h
    exact Nat.le_refl _
  | cons k keyword ih =>
    cases text with
    | nil => simp [afterKeyword?] at h
    | cons c text =>
      simp only [afterKeyword?] at h
      split at h
      · have := ih h
        simp only [List.length_cons]
        omega
      · cases h

theorem length_lt_of_groupBody? {keyword term body : List Char}
    (h : groupBody? keyword term = some body) : body.length < term.length := by
  simp only [groupBody?, Option.bind_eq_some_iff] at h
  obtain ⟨rest, after, inner⟩ := h
  have := length_le_of_afterKeyword? after
  have := length_trimLeft_le rest
  have := length_lt_of_parenthesised? inner
  omega

/-- The body of a group is shorter than its term. -/
theorem length_lt_of_groupOf? {term body : List Char} {joiner : Joiner}
    (h : groupOf? term = some (joiner, body)) : body.length < term.length := by
  unfold groupOf? at h
  split at h
  · rename_i found
    cases h
    exact length_lt_of_groupBody? found
  · simp only [Option.map_eq_some_iff, Prod.mk.injEq] at h
    obtain ⟨found, inner, _, rfl⟩ := h
    exact length_lt_of_groupBody? inner

namespace Condition

/-- Reads a term that is not a group, on a column of a table. -/
def parseTest (table : String) (term : List Char) : Except Error Condition :=
  match TermText.ofText? term with
  | none => .error (.parse (.malformedTerm (String.ofList term)))
  | some text => do
    let column ← ColumnRef.ofNames table (String.ofList text.column)
    let test ← Test.ofOperator term (String.ofList text.operator) (Operand.unquoted text.operand)
    .ok (.test column test)

/-- Reads the terms of a group. -/
def parseGroup (table : String) (joiner : Joiner) (text : List Char) : Except Error Condition :=
  match split : segments text with
  | .error error => .error error
  | .ok [] => .error (.parse (.emptyGroup (String.ofList text)))
  | .ok (first :: rest) => do
    let terms ← (first :: rest).attach.mapM fun ⟨term, present⟩ =>
      match found : groupOf? term with
      | none => parseTest table term
      | some (inner, body) =>
        have : body.length < text.length :=
          Nat.lt_of_lt_of_le (length_lt_of_groupOf? found)
            (length_le_of_mem_segments split term present)
        parseGroup table inner body
    .ok (.group joiner terms)
termination_by text.length

/-- Reads a filter expression, whose terms are alternatives. -/
def parse (table expression : String) : Except Error Condition :=
  parseGroup table .or expression.toList

end Condition

end FluentSql
