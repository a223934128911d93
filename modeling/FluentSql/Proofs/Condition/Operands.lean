import FluentSql.Condition.Basic
import FluentSql.Proofs.Statement.Fragment

/-!
# The operands of conditions

The values that a condition compares with. Its fragment binds them from left to right, whatever
groups they stand in.
-/

namespace FluentSql

/-- The operands of a test. -/
def Test.operands : Test → List Json
  | .compare _ value => [value]
  | .is _ => []
  | .among values => values

namespace Condition

mutual

/-- The operands of a condition, from left to right. -/
def operands : Condition → List Json
  | .test _ asked => asked.operands
  | .group _ terms => termOperands terms

/-- The operands of conditions, from left to right. -/
def termOperands : List Condition → List Json
  | [] => []
  | term :: rest => term.operands ++ termOperands rest

end

end Condition

theorem Test.params_suffix (test : Test) : Fragment.params test.suffix = test.operands := by
  cases test with
  | compare comparison value => rfl
  | is truth => rfl
  | among values =>
    rw [Test.suffix, Fragment.params_append, Fragment.params_append, Fragment.params_boundList]
    exact List.append_nil values

/-- An empty list is written in another way, and binds nothing in either. -/
theorem Test.params_fragment (column : ColumnRef) (test : Test) :
    Fragment.params (test.fragment column) = test.operands := by
  unfold Test.fragment
  split
  · rfl
  · rw [Fragment.params_append, Fragment.params_column, List.nil_append, Test.params_suffix]

namespace Condition

theorem params_parenthesised (fragment : Fragment) :
    Fragment.params (parenthesised fragment) = Fragment.params fragment := by
  rw [parenthesised, Fragment.params_append, Fragment.params_append]
  exact List.append_nil _

mutual

theorem params_fragment : ∀ condition : Condition,
    Fragment.params condition.fragment = condition.operands
  | .test column asked => by
    rw [fragment, params_parenthesised, Test.params_fragment, operands]
  | .group joiner terms => by
    rw [fragment, params_parenthesised, Fragment.params_separated, params_termFragments terms,
      operands]

theorem params_termFragments : ∀ terms : List Condition,
    (termFragments terms).flatMap Fragment.params = termOperands terms
  | [] => rfl
  | term :: rest => by
    rw [termFragments, List.flatMap_cons, params_fragment term, params_termFragments rest,
      termOperands]

end

end Condition

end FluentSql
