import FluentSql.Proofs.Sql.Literal
import FluentSql.Proofs.Statement.Values

/-!
# Literals in place of placeholders

The readable text of a fragment is its text with literals in place of the placeholders. In a delimited
fragment each value is followed by a blank, a comma, a closing parenthesis or nothing, and then the
literals can be read out of the readable text again, each to its own end.

Results:
1. `Fragment.sql_eq_weave`, `Fragment.inlineSql_eq_weave`: both texts have the same text between what is
   written for the values.
2. `Fragment.Delimited.denotes`: what the literals of a delimited fragment denote.
3. `Fragment.Delimits.append`, `Clause.Delimits.append`: fragments that are put together are delimited
   as their parts are.
-/

namespace FluentSql

/-! ## The text between the values -/

/-- Texts with fillings between them. -/
def weave : List String → List String → String
  | [], _ => ""
  | text :: _, [] => text
  | text :: texts, filling :: fillings => text ++ (filling ++ weave texts fillings)

theorem weave_modifyHead {texts : List String} (present : texts ≠ []) (sql : String)
    (fillings : List String) :
    weave (texts.modifyHead (sql ++ ·)) fillings = sql ++ weave texts fillings := by
  cases texts with
  | nil => exact absurd rfl present
  | cons text texts =>
    cases fillings with
    | nil => rfl
    | cons filling fillings => exact String.append_assoc

namespace Fragment

/-- The texts before, between and after the values. -/
def gaps : Fragment → List String
  | [] => [""]
  | .text sql :: rest => (gaps rest).modifyHead (sql ++ ·)
  | .bound _ :: rest => "" :: gaps rest

theorem length_gaps (fragment : Fragment) :
    (gaps fragment).length = (params fragment).length + 1 := by
  induction fragment with
  | nil => rfl
  | cons piece rest ih =>
    cases piece with
    | text sql => rw [gaps, List.length_modifyHead, ih, params_cons_text]
    | bound value => rw [gaps, List.length_cons, ih, params_cons_bound, List.length_cons]

theorem gaps_ne_nil (fragment : Fragment) : gaps fragment ≠ [] := by
  apply List.ne_nil_of_length_pos
  rw [length_gaps]
  exact Nat.succ_pos _

theorem sqlFrom_eq_weave (count : Nat) (fragment : Fragment) :
    sqlFrom count fragment = weave (gaps fragment)
      ((List.range' (count + 1) (params fragment).length).map placeholder) := by
  induction fragment generalizing count with
  | nil => rfl
  | cons piece rest ih =>
    cases piece with
    | text sql => rw [sqlFrom, gaps, weave_modifyHead (gaps_ne_nil rest), ih, params_cons_text]
    | bound value =>
      rw [sqlFrom, gaps, params_cons_bound, List.length_cons, List.range'_succ, List.map_cons, weave,
        String.empty_append, ih]

/-- The text of a fragment has the placeholders in its gaps. -/
theorem sql_eq_weave (fragment : Fragment) :
    sql fragment =
      weave (gaps fragment) ((List.range' 1 (params fragment).length).map placeholder) :=
  sqlFrom_eq_weave 0 fragment

theorem inlineSql_cons (piece : Piece) (rest : Fragment) :
    inlineSql (piece :: rest) = piece.inlineText ++ inlineSql rest := rfl

/-- The readable text has the literals of the values in the same gaps. -/
theorem inlineSql_eq_weave (fragment : Fragment) :
    inlineSql fragment = weave (gaps fragment) ((params fragment).map Json.literal) := by
  induction fragment with
  | nil => rfl
  | cons piece rest ih =>
    rw [inlineSql_cons, ih]
    cases piece with
    | text sql => rw [gaps, weave_modifyHead (gaps_ne_nil rest), params_cons_text, Piece.inlineText]
    | bound value =>
      rw [gaps, params_cons_bound, List.map_cons, weave, String.empty_append, Piece.inlineText]

theorem inlineSql_append (first second : Fragment) :
    inlineSql (first ++ second) = inlineSql first ++ inlineSql second := by
  induction first with
  | nil => exact String.empty_append.symm
  | cons piece rest ih =>
    rw [List.cons_append, inlineSql_cons, inlineSql_cons, ih, String.append_assoc]

/-! ## Delimited fragments -/

/-- The fragment can come after a value: it has no text at all, or its text begins with a character
that can come after a literal. -/
def isApart : Fragment → Bool
  | [] => true
  | .text sql :: rest =>
    match sql.toList with
    | [] => isApart rest
    | c :: _ => Sql.endsLiteral c
  | .bound _ :: _ => false

/-- What comes after each value can come after it. -/
def isDelimited : Fragment → Bool
  | [] => true
  | .text _ :: rest => isDelimited rest
  | .bound _ :: rest => isApart rest && isDelimited rest

/-- Each value is followed by a character that can come after a literal, or by nothing. -/
def Delimited (fragment : Fragment) : Prop := isDelimited fragment = true

/-- What the two texts of a fragment have in common, and what its literals denote. -/
structure Denotes (fragment : Fragment) : Prop where
  /-- There is a gap before each value, and one after the last. -/
  between : (gaps fragment).length = (params fragment).length + 1
  /-- The text has the placeholders in the gaps, numbered from one. -/
  numbered : sql fragment =
    weave (gaps fragment) ((List.range' 1 (params fragment).length).map placeholder)
  /-- The readable text has the literals of the values there. -/
  filled : inlineSql fragment = weave (gaps fragment) ((params fragment).map Json.literal)
  /-- From its first character on, each literal is read to its end and no further. What is read is the
  text that is sent for the value. -/
  read : ∀ before value after, fragment = before ++ .bound value :: after →
    inlineSql fragment = inlineSql before ++ (value.literal ++ inlineSql after) ∧
    ∀ type : SqlType, type.isJson = false → type.isArray = false →
      Sql.readLiteral (value.literal ++ inlineSql after).toList =
        some (value.denoted type, (inlineSql after).toList)

theorem endsLiteral_of_isApart {fragment : Fragment} (apart : isApart fragment = true) :
    Sql.EndsLiteral (inlineSql fragment).toList := by
  induction fragment with
  | nil =>
    intro c first
    cases first
  | cons piece rest ih =>
    cases piece with
    | text sql =>
      rw [inlineSql_cons, Piece.inlineText, String.toList_append]
      rw [isApart] at apart
      cases letters : sql.toList with
      | nil =>
        rw [letters] at apart
        exact ih apart
      | cons d later =>
        rw [letters] at apart
        intro c first
        cases first
        exact apart
    | bound value => cases apart

/-- What comes after a value in a delimited fragment. -/
theorem Delimited.after {before after : Fragment} {value : Json}
    (delimited : Delimited (before ++ .bound value :: after)) : isApart after = true := by
  induction before with
  | nil => exact (Bool.and_eq_true_iff.mp delimited).1
  | cons piece rest ih =>
    cases piece with
    | text sql => exact ih delimited
    | bound value => exact ih (Bool.and_eq_true_iff.mp delimited).2

/-- The literals of a delimited fragment denote what is sent for its values. -/
theorem Delimited.denotes {fragment : Fragment} (delimited : Delimited fragment) :
    Denotes fragment where
  between := length_gaps fragment
  numbered := sql_eq_weave fragment
  filled := inlineSql_eq_weave fragment
  read := by
    rintro before value after rfl
    refine ⟨by rw [inlineSql_append, inlineSql_cons, Piece.inlineText], ?_⟩
    intro type plain single
    rw [String.toList_append]
    exact Json.readLiteral_append plain single value (endsLiteral_of_isApart delimited.after)

/-! ## Putting fragments together -/

/-- What may come right before a fragment. -/
inductive Preceding where
  /-- Text, or nothing. -/
  | text
  /-- Possibly a value. -/
  | value

/-- The fragment is delimited, and can come where it comes. -/
def Follows : Preceding → Fragment → Prop
  | .text, fragment => Delimited fragment
  | .value, fragment => isApart fragment = true ∧ Delimited fragment

/-- Whatever can come after the fragment makes a whole that can come where the fragment comes. -/
def Delimits (before : Preceding) (fragment : Fragment) (after : Preceding) : Prop :=
  ∀ rest, Follows after rest → Follows before (fragment ++ rest)

variable {before middle after : Preceding} {first second fragment : Fragment}

theorem Follows.toText (follows : Follows before fragment) : Follows .text fragment := by
  cases before with
  | text => exact follows
  | value => exact follows.2

namespace Delimits

theorem append (left : Delimits before first middle) (right : Delimits middle second after) :
    Delimits before (first ++ second) after := by
  intro rest follows
  rw [List.append_assoc]
  exact left _ (right rest follows)

/-- What can come after a value can come after text. -/
theorem fromText (delimits : Delimits before fragment after) : Delimits .text fragment after :=
  fun rest follows => (delimits rest follows).toText

/-- A fragment that ends in text can be treated as one that ends in a value. -/
theorem toValue (delimits : Delimits before fragment .text) : Delimits before fragment .value :=
  fun rest follows => delimits rest follows.2

/-- A whole fragment. -/
theorem delimited (delimits : Delimits before fragment .value) : Delimited fragment := by
  have whole := (delimits [] ⟨rfl, rfl⟩).toText
  rwa [List.append_nil] at whole

end Delimits

theorem delimits_nil : Delimits before [] before := fun _ follows => follows

theorem delimits_bound (value : Json) : Delimits .text (bound value) .value := by
  intro rest follows
  exact Bool.and_eq_true_iff.mpr follows

/-- Text without values. -/
theorem delimits_of_unbound (unbound : params fragment = []) : Delimits .text fragment .text := by
  intro rest follows
  induction fragment with
  | nil => exact follows
  | cons piece later ih =>
    cases piece with
    | text sql => exact ih unbound
    | bound value => cases unbound

/-- Text that begins with a character that can come after a literal. -/
theorem delimits_text {sql : String} (apart : sql.toList.head?.any Sql.endsLiteral = true) :
    Delimits .value (text sql) .text := by
  intro rest follows
  refine ⟨?_, follows⟩
  rw [text, List.singleton_append, isApart]
  cases letters : sql.toList with
  | nil =>
    rw [letters] at apart
    cases apart
  | cons c later =>
    rw [letters] at apart
    exact apart

theorem delimits_separated {separator : String} {fragments : List Fragment}
    (between : Delimits after (text separator) .text)
    (each : ∀ fragment ∈ fragments, Delimits .text fragment after) :
    Delimits .text (separated separator fragments) after := by
  induction fragments with
  | nil => exact fun rest follows => follows.toText
  | cons first rest ih =>
    have head := each first (by simp)
    cases rest with
    | nil => simpa using head
    | cons second rest =>
      rw [separated_cons_cons]
      have tail := ih fun fragment present => each fragment (List.mem_cons_of_mem first present)
      exact (head.append between).append tail

theorem delimits_boundList (values : List Json) : Delimits .text (boundList values) .value := by
  refine delimits_separated (delimits_text (by decide)) ?_
  intro fragment present
  obtain ⟨value, -, rfl⟩ := List.mem_map.mp present
  exact delimits_bound value

end Fragment

/-! ## Clauses -/

namespace Clause

open Fragment (Preceding)

/-- What a clause comes to, if it comes to something, is delimited in its place. -/
def Delimits (before : Preceding) (clause : Clause) (after : Preceding) : Prop :=
  ∀ fragment, clause.result = .ok fragment → Fragment.Delimits before fragment after

variable {before middle after : Preceding} {first second clause : Clause}

namespace Delimits

theorem append (left : Delimits before first middle) (right : Delimits middle second after) :
    Delimits before (first ++ second) after := by
  intro fragment written
  obtain ⟨one, two, found, later, rfl⟩ := result_append_eq_ok.mp written
  exact (left one found).append (right two later)

theorem fromText (delimits : Delimits before clause after) : Delimits .text clause after :=
  fun fragment written => (delimits fragment written).fromText

theorem toValue (delimits : Delimits before clause .text) : Delimits before clause .value :=
  fun fragment written => (delimits fragment written).toValue

end Delimits

theorem delimits_ofFragment {fragment : Fragment}
    (delimits : Fragment.Delimits before fragment after) :
    Delimits before (ofFragment fragment) after := by
  rintro _ ⟨⟩
  exact delimits

theorem delimits_empty : Delimits before empty before := delimits_ofFragment Fragment.delimits_nil

theorem delimits_fail (error : Error) : Delimits before (fail error) after :=
  fun _ written => nomatch written

theorem delimits_bound (value : Json) : Delimits .text (bound value) .value :=
  delimits_ofFragment (Fragment.delimits_bound value)

theorem delimits_text {sql : String} (apart : sql.toList.head?.any Sql.endsLiteral = true) :
    Delimits .value (text sql) .text :=
  delimits_ofFragment (Fragment.delimits_text apart)

/-- A clause without values. -/
theorem Binds.delimits (binds : Binds clause []) : Delimits .text clause .text :=
  fun fragment written => Fragment.delimits_of_unbound (binds fragment written)

theorem delimits_separated {separator : String} {clauses : List Clause}
    (between : Fragment.Delimits after (Fragment.text separator) .text)
    (each : ∀ clause ∈ clauses, Delimits .text clause after) :
    Delimits .text (separated separator clauses) after := by
  intro fragment written
  rw [result_separated, map_eq_ok_iff] at written
  obtain ⟨fragments, all, rfl⟩ := written
  refine Fragment.delimits_separated between ?_
  intro found present
  obtain ⟨clause, listed, same⟩ := exists_of_mem_mapM all found present
  exact each clause listed found same

end Clause

end FluentSql
