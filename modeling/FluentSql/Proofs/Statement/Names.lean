import FluentSql.Proofs.Statement.Clause
import FluentSql.Proofs.Statement.Identifier

/-!
# The names of a clause

`Clause.Checks clause name` says that the clause comes to a fragment only if the name is simple. A
clause that is put together checks the names that its parts check.
-/

namespace FluentSql

theorem Identifier.simple_of_ofName {name : String} {ident : Identifier}
    (named : Identifier.ofName name = .ok ident) : isSimpleName name.toList = true := by
  rw [← Identifier.name_of_ofName named]
  exact ident.simple

namespace Clause

/-- The clause fails if the name is not simple. -/
def Checks (clause : Clause) (name : String) : Prop :=
  ∀ fragment, clause.result = .ok fragment → isSimpleName name.toList = true

variable {first second : Clause} {name : String}

theorem checks_fail (error : Error) : Checks (fail error) name := by
  intro fragment written
  cases written

theorem checks_ofExcept {outcome : Except Error Fragment}
    (checks : ∀ fragment, outcome = .ok fragment → isSimpleName name.toList = true) :
    Checks (ofExcept outcome) name := by
  intro fragment written
  rw [result_ofExcept] at written
  exact checks fragment written

theorem checks_ident (name : String) : Checks (ident name) name := by
  apply checks_ofExcept
  intro fragment named
  obtain ⟨ident, found, -⟩ := map_eq_ok_iff.mp named
  exact Identifier.simple_of_ofName found

namespace Checks

/-- What is checked before another clause. -/
theorem before (checks : Checks first name) : Checks (first ++ second) name := by
  intro fragment written
  obtain ⟨earlier, -, found, -⟩ := result_append_eq_ok.mp written
  exact checks earlier found

/-- What is checked behind another clause. -/
theorem after (checks : Checks second name) : Checks (first ++ second) name := by
  intro fragment written
  obtain ⟨-, later, -, found, -⟩ := result_append_eq_ok.mp written
  exact checks later found

end Checks

theorem checks_qualified (table column : String) : Checks (qualified table column) column :=
  (checks_ident column).after

/-- What is checked for one item of a list. -/
theorem checks_separated {α : Type} (separator : String) {items : List α} {clause : α → Clause}
    {item : α} (listed : item ∈ items) (checks : Checks (clause item) name) :
    Checks (separated separator (items.map clause)) name := by
  intro fragment written
  rw [result_separated] at written
  obtain ⟨fragments, all, -⟩ := map_eq_ok_iff.mp written
  obtain ⟨own, -, found⟩ :=
    exists_of_mem_forall₂ (mapM_eq_ok_iff.mp all) (List.mem_map_of_mem listed)
  exact checks own found

end Clause

end FluentSql
