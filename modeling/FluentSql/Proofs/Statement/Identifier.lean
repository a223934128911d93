import FluentSql.Statement.Identifier
import FluentSql.Proofs.Outcome

/-!
# Simple names

What a simple name is made of, and that its identifier is found by it.
-/

namespace FluentSql

theorem isNameChar_of_isSimpleName {name : List Char} (simple : isSimpleName name = true) :
    ∀ c ∈ name, isNameChar c = true := by
  cases name with
  | nil => simp
  | cons first rest =>
    simp only [isSimpleName, Bool.and_eq_true, List.all_eq_true] at simple
    intro c present
    rcases List.mem_cons.mp present with rfl | present
    · have start := simple.1
      simp only [isNameStart, isNameChar, Char.isAlphanum, Bool.or_eq_true] at start ⊢
      rcases start with start | start <;> simp [start]
    · exact simple.2 c present

/-- A simple name, which is not empty. -/
theorem exists_of_isSimpleName {name : List Char} (simple : isSimpleName name = true) :
    ∃ c rest, name = c :: rest ∧ isNameChar c = true := by
  cases name with
  | nil => cases simple
  | cons c rest => exact ⟨c, rest, rfl, isNameChar_of_isSimpleName simple c (by simp)⟩

/-- Identifiers with the same name are the same. -/
theorem Identifier.name_injective : Function.Injective Identifier.name := by
  rintro ⟨name, _⟩ ⟨name', _⟩ same
  cases same
  rfl

theorem Identifier.ofName_name (ident : Identifier) : Identifier.ofName ident.name = .ok ident := by
  rw [Identifier.ofName, Identifier.ofName?_eq_some_iff.mpr rfl]

theorem Identifier.name_of_ofName {name : String} {ident : Identifier}
    (named : Identifier.ofName name = .ok ident) : ident.name = name := by
  rw [Identifier.ofName] at named
  split at named
  · rename_i found
    cases named
    exact Identifier.ofName?_eq_some_iff.mp found
  · cases named

/-- Identifiers are made of the simple names among some names. -/
theorem Identifier.map_name_filterMap (names : List String) :
    (names.filterMap Identifier.ofName?).map Identifier.name =
      names.filter (isSimpleName ·.toList) := by
  induction names with
  | nil => rfl
  | cons name rest ih =>
    by_cases simple : isSimpleName name.toList = true
    · have named : Identifier.ofName? name = some ⟨name, simple⟩ :=
        Identifier.ofName?_eq_some_iff.mpr rfl
      rw [List.filterMap_cons_some named, List.map_cons, ih, List.filter_cons, if_pos simple]
    · have other : Identifier.ofName? name = none := dif_neg simple
      rw [List.filterMap_cons_none other, ih, List.filter_cons, if_neg simple]

theorem ColumnRef.ofNames_name (table column : Identifier) :
    ColumnRef.ofNames table.name column.name = .ok ⟨table, column⟩ := by
  simp [ColumnRef.ofNames, Identifier.ofName_name]

end FluentSql
