import FluentSql.Statement.Fragment

/-!
# Texts and values of fragments

The text of fragments that are put together, and the values bound in them.
-/

namespace FluentSql.Fragment

@[simp] theorem params_nil : params [] = [] := rfl

@[simp] theorem params_text (sql : String) : params (text sql) = [] := rfl

@[simp] theorem params_bound (value : Json) : params (bound value) = [value] := rfl

@[simp] theorem params_cons_text (sql : String) (rest : Fragment) :
    params (.text sql :: rest) = params rest := rfl

@[simp] theorem params_cons_bound (value : Json) (rest : Fragment) :
    params (.bound value :: rest) = value :: params rest := rfl

@[simp] theorem params_ident (name : Identifier) : params (ident name) = [] := rfl

@[simp] theorem params_column (ref : ColumnRef) : params (column ref) = [] := rfl

@[simp] theorem params_append (first second : Fragment) :
    params (first ++ second) = params first ++ params second := List.filterMap_append

@[simp] theorem sqlFrom_text (count : Nat) (sql : String) : sqlFrom count (text sql) = sql := by
  simp [sqlFrom, text]

@[simp] theorem sqlFrom_bound (count : Nat) (value : Json) :
    sqlFrom count (bound value) = placeholder (count + 1) := by
  simp [sqlFrom, bound]

/-- The placeholders of the second fragment are numbered after those of the first. -/
theorem sqlFrom_append (count : Nat) (first second : Fragment) :
    sqlFrom count (first ++ second) =
      sqlFrom count first ++ sqlFrom (count + (params first).length) second := by
  induction first generalizing count with
  | nil => simp [sqlFrom]
  | cons piece rest ih =>
    cases piece with
    | text sql =>
      rw [List.cons_append, sqlFrom, sqlFrom, ih, String.append_assoc]
      rfl
    | bound value =>
      rw [List.cons_append, sqlFrom, sqlFrom, ih, String.append_assoc]
      simp [params, Piece.value?, Nat.add_assoc, Nat.add_comm 1]

@[simp] theorem separated_nil (separator : String) : separated separator [] = [] := rfl

@[simp] theorem separated_singleton (separator : String) (fragment : Fragment) :
    separated separator [fragment] = fragment := by
  simp [separated, List.intercalate]

@[simp] theorem separated_cons_cons (separator : String) (first second : Fragment)
    (rest : List Fragment) :
    separated separator (first :: second :: rest) =
      first ++ text separator ++ separated separator (second :: rest) := by
  simp [separated, List.intercalate]

/-- Separators bind no values. -/
@[simp] theorem params_separated (separator : String) (fragments : List Fragment) :
    params (separated separator fragments) = fragments.flatMap params := by
  induction fragments with
  | nil => rfl
  | cons first rest ih =>
    cases rest with
    | nil => simp
    | cons second rest => simp [ih]

@[simp] theorem params_boundList (values : List Json) : params (boundList values) = values := by
  rw [boundList, params_separated, List.flatMap_map]
  exact List.flatMap_singleton' values

end FluentSql.Fragment
