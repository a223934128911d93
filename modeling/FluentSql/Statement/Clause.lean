import FluentSql.Statement.Fragment

/-!
# Clauses

Fragments whose writing can fail. A clause keeps what was written before the failure, so that a
caller sees how far it came. Clauses are put together with `++`, and nothing is written after a
failure.
-/

namespace FluentSql

/-- What has been written, and the error that stopped the writing, if there was one. -/
structure Clause where
  written : Fragment
  error : Option Error
deriving Repr

namespace Clause

/-- A clause that was written to its end. -/
def ofFragment (fragment : Fragment) : Clause := ⟨fragment, none⟩

/-- A failure before anything was written. -/
def fail (error : Error) : Clause := ⟨[], some error⟩

/-- Writes a fragment that may not exist. -/
def ofExcept : Except Error Fragment → Clause
  | .ok fragment => ofFragment fragment
  | .error error => fail error

/-- Writes one clause and then, unless it failed, the other. -/
def append (first second : Clause) : Clause :=
  match first.error with
  | some _ => first
  | none => ⟨first.written ++ second.written, second.error⟩

instance : Append Clause := ⟨append⟩

/-- The empty clause. -/
def empty : Clause := ofFragment []

/-- A clause of text alone. -/
def text (sql : String) : Clause := ofFragment (Fragment.text sql)

/-- A clause of one placeholder. -/
def bound (value : Json) : Clause := ofFragment (Fragment.bound value)

/-- An identifier of a name, if it is simple. -/
def ident (name : String) : Clause := ofExcept ((Identifier.ofName name).map Fragment.ident)

/-- A qualified column; the names are looked at as they are written. -/
def qualified (table column : String) : Clause := ident table ++ text "." ++ ident column

/-- Clauses with a separator between them. -/
def separated (separator : String) : List Clause → Clause
  | [] => empty
  | [clause] => clause
  | clause :: rest => clause ++ text separator ++ separated separator rest

/-- The finished fragment, or the error. -/
def result (clause : Clause) : Except Error Fragment :=
  match clause.error with
  | some error => .error error
  | none => .ok clause.written

end Clause

end FluentSql
