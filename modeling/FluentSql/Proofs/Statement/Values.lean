import FluentSql.Proofs.Statement.Clause
import FluentSql.Proofs.Statement.Fragment

/-!
# The values of a clause

`Clause.Binds clause values` says which values are bound, in the order of their placeholders, where a
clause comes to a fragment at all. A clause that is put together binds the values of its parts.
-/

namespace FluentSql.Clause

/-- The values that are bound by what the clause comes to. -/
def Binds (clause : Clause) (values : List Json) : Prop :=
  ∀ fragment, clause.result = .ok fragment → Fragment.params fragment = values

variable {first second : Clause} {values values' : List Json}

theorem binds_ofFragment (fragment : Fragment) :
    Binds (ofFragment fragment) (Fragment.params fragment) := by
  rintro _ ⟨⟩
  rfl

theorem binds_empty : Binds empty [] := binds_ofFragment []

theorem binds_text (sql : String) : Binds (text sql) [] := binds_ofFragment (Fragment.text sql)

theorem binds_bound (value : Json) : Binds (bound value) [value] :=
  binds_ofFragment (Fragment.bound value)

theorem binds_fail (error : Error) : Binds (fail error) values := by
  intro fragment written
  cases written

theorem binds_ofExcept {outcome : Except Error Fragment}
    (bound : ∀ fragment, outcome = .ok fragment → Fragment.params fragment = values) :
    Binds (ofExcept outcome) values := by
  intro fragment written
  rw [result_ofExcept] at written
  exact bound fragment written

theorem binds_ident (name : String) : Binds (ident name) [] := by
  apply binds_ofExcept
  intro fragment named
  obtain ⟨ident, -, rfl⟩ := map_eq_ok_iff.mp named
  rfl

namespace Binds

theorem append (one : Binds first values) (two : Binds second values') :
    Binds (first ++ second) (values ++ values') := by
  intro fragment written
  obtain ⟨before, after, earlier, later, rfl⟩ := result_append_eq_ok.mp written
  rw [Fragment.params_append, one before earlier, two after later]

/-- A clause that binds nothing, before another one. -/
theorem after (one : Binds first []) (two : Binds second values) :
    Binds (first ++ second) values := one.append two

/-- A clause that binds nothing, behind another one. -/
theorem before (one : Binds first values) (two : Binds second []) :
    Binds (first ++ second) values := by
  have both := one.append two
  rwa [List.append_nil] at both

end Binds

theorem binds_qualified (table column : String) : Binds (qualified table column) [] :=
  ((binds_ident table).before (binds_text ".")).before (binds_ident column)

/-- The clauses for the items of a list. -/
theorem binds_separated {α : Type} (separator : String) {items : List α} {clause : α → Clause}
    {values : α → List Json} (each : ∀ item ∈ items, Binds (clause item) (values item)) :
    Binds (separated separator (items.map clause)) (items.flatMap values) := by
  intro fragment written
  rw [result_separated] at written
  obtain ⟨fragments, all, rfl⟩ := map_eq_ok_iff.mp written
  have pairs := mapM_eq_ok_iff.mp all
  rw [List.forall₂_map_left_iff] at pairs
  rw [Fragment.params_separated]
  clear all written
  induction pairs with
  | nil => rfl
  | @cons item fragment items fragments first _ ih =>
    have others := ih fun other present => each other (by simp [present])
    rw [List.flatMap_cons, List.flatMap_cons, each item (by simp) fragment first, others]

/-- Clauses that bind nothing. -/
theorem binds_separated_nil {α : Type} (separator : String) {items : List α} {clause : α → Clause}
    (each : ∀ item ∈ items, Binds (clause item) []) :
    Binds (separated separator (items.map clause)) [] := by
  have all := binds_separated separator each
  rwa [List.flatMap_eq_nil_iff.mpr fun _ _ => rfl] at all

end FluentSql.Clause
