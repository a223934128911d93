import FluentSql.Proofs.Statement.Clause
import FluentSql.Proofs.Statement.Fragment

/-!
# Statements that differ in their values

Two fragments are alike when one becomes the other by putting other values in the places of its
values. Alike fragments have the same text, and whatever is put together from alike parts is alike.
-/

namespace FluentSql

/-- The same text, or a placeholder in both. -/
inductive Piece.Alike : Piece → Piece → Prop
  | text (sql : String) : Piece.Alike (.text sql) (.text sql)
  | bound (value value' : Json) : Piece.Alike (.bound value) (.bound value')

namespace Fragment

/-- The fragments differ in bound values only. -/
def Alike (fragment fragment' : Fragment) : Prop := List.Forall₂ Piece.Alike fragment fragment'

namespace Alike

variable {first first' second second' : Fragment}

theorem refl (fragment : Fragment) : Alike fragment fragment := by
  refine List.forall₂_same.mpr ?_
  intro piece _
  cases piece with
  | text sql => exact .text sql
  | bound value => exact .bound value value

theorem bound (value value' : Json) : Alike (bound value) (bound value') :=
  .cons (.bound value value') .nil

theorem append (one : Alike first first') (two : Alike second second') :
    Alike (first ++ second) (first' ++ second') :=
  List.rel_append one two

theorem sqlFrom_eq (alike : Alike first first') (count : Nat) :
    sqlFrom count first = sqlFrom count first' := by
  induction alike generalizing count with
  | nil => rfl
  | cons piece _ ih =>
    cases piece with
    | text sql => rw [sqlFrom, sqlFrom, ih]
    | bound value value' => rw [sqlFrom, sqlFrom, ih]

theorem sql_eq (alike : Alike first first') : sql first = sql first' := alike.sqlFrom_eq 0

theorem separated (separator : String) {fragments fragments' : List Fragment}
    (pairs : List.Forall₂ Alike fragments fragments') :
    Alike (separated separator fragments) (separated separator fragments') := by
  induction pairs with
  | nil => exact refl []
  | cons first others ih =>
    cases others with
    | nil => simpa using first
    | cons second others =>
      rw [separated_cons_cons, separated_cons_cons]
      exact (first.append (refl _)).append ih

/-- As many placeholders. -/
theorem boundList {values values' : List Json} (same : values.length = values'.length) :
    Alike (boundList values) (boundList values') := by
  apply separated
  rw [List.forall₂_map_left_iff, List.forall₂_map_right_iff, List.forall₂_iff_get]
  exact ⟨same, fun _ _ _ => bound _ _⟩

end Alike

end Fragment

namespace Clause

/-- The clauses fail with the same error, or come to alike fragments. -/
def Alike (clause clause' : Clause) : Prop := Lockstep Fragment.Alike clause.result clause'.result

namespace Alike

variable {first first' second second' : Clause}

theorem refl (clause : Clause) : Alike clause clause := Lockstep.same Fragment.Alike.refl _

theorem ofFragment {fragment fragment' : Fragment} (alike : Fragment.Alike fragment fragment') :
    Alike (ofFragment fragment) (ofFragment fragment') :=
  .ok alike

theorem append (one : Alike first first') (two : Alike second second') :
    Alike (first ++ second) (first' ++ second') := by
  rw [Alike, result_append, result_append]
  refine one.bind fun written written' before => two.bind fun later later' after => ?_
  exact .ok (before.append after)

theorem separated (separator : String) {clauses clauses' : List Clause}
    (pairs : List.Forall₂ Alike clauses clauses') :
    Alike (separated separator clauses) (separated separator clauses') := by
  rw [Alike, result_separated, result_separated]
  exact (Lockstep.mapM pairs).map fun _ _ all => .separated separator all

end Alike

end Clause

end FluentSql
