import FluentSql.Proofs.Outcome
import FluentSql.Proofs.Statement.Fragment
import FluentSql.Statement.Clause

/-!
# Results of clauses

When a clause that is put together comes to a fragment: exactly when its parts do.
-/

namespace FluentSql.Clause

@[simp] theorem result_ofFragment (fragment : Fragment) : (ofFragment fragment).result = .ok fragment :=
  rfl

@[simp] theorem result_text (sql : String) : (text sql).result = .ok (Fragment.text sql) := rfl

@[simp] theorem result_bound (value : Json) : (bound value).result = .ok (Fragment.bound value) := rfl

@[simp] theorem result_empty : empty.result = .ok [] := rfl

@[simp] theorem result_fail (error : Error) : (fail error).result = .error error := rfl

@[simp] theorem result_ofExcept (outcome : Except Error Fragment) :
    (ofExcept outcome).result = outcome := by
  cases outcome <;> rfl

/-- Nothing is written after a failure. -/
theorem append_of_error {first : Clause} {error : Error} (fails : first.error = some error)
    (second : Clause) : first ++ second = first := by
  change first.append second = first
  rw [append, fails]

theorem append_of_done {first : Clause} (done : first.error = none) (second : Clause) :
    first ++ second = ⟨first.written ++ second.written, second.error⟩ := by
  change first.append second = _
  rw [append, done]

/-- Clauses that are put together fail as the first of them that fails. -/
theorem result_append (first second : Clause) :
    (first ++ second).result = (do
      let written ← first.result
      let later ← second.result
      .ok (written ++ later)) := by
  change (first.append second).result = _
  rcases first with ⟨written, _ | error⟩
  · rcases second with ⟨later, _ | error⟩ <;> rfl
  · rfl

theorem result_append_eq_ok {first second : Clause} {fragment : Fragment} :
    (first ++ second).result = .ok fragment ↔
      ∃ written later, first.result = .ok written ∧ second.result = .ok later ∧
        written ++ later = fragment := by
  rw [result_append]
  cases first.result <;> cases second.result <;> simp

theorem separated_cons_cons (separator : String) (first second : Clause) (rest : List Clause) :
    separated separator (first :: second :: rest) =
      first ++ text separator ++ separated separator (second :: rest) := rfl

/-- Clauses with a separator between them come to a fragment when each of them does. -/
theorem result_separated (separator : String) (clauses : List Clause) :
    (separated separator clauses).result =
      (clauses.mapM result).map (Fragment.separated separator) := by
  induction clauses with
  | nil => rfl
  | cons first rest ih =>
    cases rest with
    | nil => cases written : first.result <;> simp [separated, written]
    | cons second rest =>
      rw [separated_cons_cons, result_append, result_append, ih]
      cases one : first.result <;> cases two : second.result <;> cases all : rest.mapM result <;>
        simp [one, two, all]

end FluentSql.Clause
