import FluentSql.Proofs.Sql.Spelling
import FluentSql.Proofs.Statement.Clause

/-!
# Reading fragments

How tokens of a fragment follow from the tokens of its pieces. `Reads` says that a text is read from
one edge to another and which placeholders it has, whatever tokens it spells; it is kept by putting
texts one after the other (`Reads.append`), and fragments and clauses inherit it.

Results:
1. `Fragment.Reads.append`, `Fragment.reads_separated`: fragments that are put together.
2. `Fragment.Reads.exists_tokens`: a fragment that is read from nothing has tokens, and its
   placeholders are numbered from one, in order, one for each value.
-/

namespace FluentSql

open Sql

namespace Sql

/-! ## Texts -/

/-- Whatever run is pending at the edge before a text, the text completes it, is read up to the edge
after it, and adds the placeholders with these numbers. -/
def Reads (before : Edge) (text : List Char) (numbers : List Nat) (after : Edge) : Prop :=
  ∀ run pending, readRun run = some pending → before.admits run = true →
    ∃ tokens last final, scan run text = some (tokens, last) ∧ readRun last = some final ∧
      after.admits last = true ∧ placeholders (tokens ++ final) = placeholders pending ++ numbers

namespace Reads

variable {before middle after : Edge} {first second text : List Char} {numbers later : List Nat}

theorem append (left : Reads before first numbers middle) (right : Reads middle second later after) :
    Reads before (first ++ second) (numbers ++ later) after := by
  intro run pending read admitted
  obtain ⟨tokens, last, final, scanned, ended, between, found⟩ := left run pending read admitted
  obtain ⟨tokens', last', final', scanned', ended', stop, found'⟩ := right last final ended between
  refine ⟨tokens ++ tokens', last', final', scan_append scanned scanned', ended', stop, ?_⟩
  calc placeholders (tokens ++ tokens' ++ final')
      = placeholders tokens ++ placeholders (tokens' ++ final') := by simp
    _ = placeholders (tokens ++ final) ++ later := by simp [found']
    _ = placeholders pending ++ (numbers ++ later) := by simp [found]

theorem nil : Reads before [] [] before := fun run pending read admitted =>
  ⟨[], run, pending, rfl, read, admitted, by simp⟩

theorem toToken (reads : Reads before text numbers after) : Reads before text numbers .token := by
  intro run pending read admitted
  obtain ⟨tokens, last, final, scanned, ended, -, found⟩ := reads run pending read admitted
  exact ⟨tokens, last, final, scanned, ended, rfl, found⟩

/-- A text that is spelled is read, with the placeholders among its tokens. -/
theorem ofSpells {tokens : List Token} (spells : Spells before text tokens after) :
    Reads before text (placeholders tokens) after := by
  intro run pending read admitted
  obtain ⟨found, last, final, scanned, ended, stop, same⟩ := spells run pending read admitted
  refine ⟨found, last, final, scanned, ended, stop, ?_⟩
  rw [same, placeholders_append]

end Reads

/-- Names and marks are read without placeholders. -/
theorem SpellsNames.reads {before after : Edge} {text : List Char}
    (spells : SpellsNames before text after) : Reads before text [] after := by
  obtain ⟨tokens, spelled, naming⟩ := spells
  rw [← placeholders_of_isNaming naming]
  exact .ofSpells spelled

/-- Whether a text is read from one edge to another, and has no placeholders. -/
def isPhrase (before : Edge) (text : List Char) (after : Edge) : Bool :=
  before.allows text &&
    match scan [] text with
    | none => false
    | some (tokens, last) =>
      after.admits last && (readRun last).any fun final => (placeholders (tokens ++ final)).isEmpty

theorem reads_of_isPhrase {before after : Edge} {text : List Char}
    (phrase : isPhrase before text after = true) : Reads before text [] after := by
  simp only [isPhrase, Bool.and_eq_true] at phrase
  obtain ⟨start, phrase⟩ := phrase
  split at phrase
  · cases phrase
  · rename_i tokens last scanned
    simp only [Bool.and_eq_true, Option.any_eq_true, List.isEmpty_iff] at phrase
    obtain ⟨stop, final, ended, none⟩ := phrase
    rw [← none]
    exact .ofSpells (spells_of_scan start scanned ended stop)

/-! ## Tokens that vary -/

/-- A quoted name is one token. -/
theorem reads_name (name : Identifier) : Reads .clear name.sql.toList [] .token :=
  .ofSpells (spells_name name)

/-- A number in decimal is one token. -/
theorem reads_number (n : Nat) : Reads .clear (natText n).toList [] .token :=
  .ofSpells (spells_number n)

/-- A placeholder is one token. -/
theorem reads_placeholder (n : Nat) : Reads .clear (Fragment.placeholder n).toList [n] .token :=
  .ofSpells (spells_placeholder n)

end Sql

/-! ## Fragments -/

/-- A fragment is read from one edge to another with one placeholder for each of its values,
numbered in order, whatever comes before. -/
def Fragment.Reads (before : Edge) (fragment : Fragment) (after : Edge) : Prop :=
  ∀ count, Sql.Reads before (Fragment.sqlFrom count fragment).toList
    (List.range' (count + 1) (Fragment.params fragment).length) after

namespace Fragment

variable {before middle after : Edge} {first second fragment : Fragment}

theorem Reads.append (left : Fragment.Reads before first middle)
    (right : Fragment.Reads middle second after) : Fragment.Reads before (first ++ second) after := by
  intro count
  have joined := (left count).append (right (count + (params first).length))
  rw [sqlFrom_append, params_append, List.length_append, String.toList_append,
    ← List.range'_append_1]
  simpa [Nat.add_right_comm] using joined

theorem Reads.toToken (reads : Fragment.Reads before fragment after) :
    Fragment.Reads before fragment .token := fun count => (reads count).toToken

theorem reads_nil : Fragment.Reads before [] before := fun _ => Sql.Reads.nil

theorem reads_text {sql : String} (reads : Sql.Reads before sql.toList [] after) :
    Fragment.Reads before (text sql) after := by
  intro count
  simpa using reads

/-- Fixed words between edges. -/
theorem reads_phrase {sql : String} (phrase : isPhrase before sql.toList after = true) :
    Fragment.Reads before (text sql) after := reads_text (reads_of_isPhrase phrase)

theorem reads_bound (value : Json) : Fragment.Reads .clear (bound value) .token := by
  intro count
  simpa using reads_placeholder (count + 1)

theorem reads_ident (name : Identifier) : Fragment.Reads .clear (ident name) .token :=
  reads_text (reads_name name)

theorem reads_separated {separator : String} {fragments : List Fragment}
    (phrase : isPhrase .token separator.toList .clear = true)
    (each : ∀ fragment ∈ fragments, Fragment.Reads .clear fragment .token) :
    Fragment.Reads .clear (separated separator fragments) .token := by
  induction fragments with
  | nil => exact reads_nil.toToken
  | cons first rest ih =>
    have head := each first (by simp)
    cases rest with
    | nil => simpa using head
    | cons second rest =>
      rw [separated_cons_cons]
      have tail := ih fun fragment present => each fragment (List.mem_cons_of_mem first present)
      exact (head.append (reads_phrase phrase)).append tail

theorem reads_boundList (values : List Json) : Fragment.Reads .clear (boundList values) .token := by
  refine reads_separated (by decide) ?_
  intro fragment present
  obtain ⟨value, -, rfl⟩ := List.mem_map.mp present
  exact reads_bound value

/-- A fragment that is read from nothing has tokens, with a placeholder for each value. -/
theorem Reads.exists_tokens (reads : Fragment.Reads .clear fragment after) :
    ∃ tokens, tokenise (sql fragment) = some tokens ∧
      placeholders tokens = List.range' 1 (params fragment).length := by
  obtain ⟨tokens, last, final, scanned, ended, -, found⟩ := reads 0 [] [] rfl rfl
  refine ⟨tokens ++ final, ?_, by simpa using found⟩
  rw [tokenise, sql, scanned]
  simp [ended]

end Fragment

/-! ## Clauses -/

/-- What a clause comes to, if it comes to something, is read from one edge to another. -/
def Clause.Reads (before : Edge) (clause : Clause) (after : Edge) : Prop :=
  ∀ fragment, clause.result = .ok fragment → Fragment.Reads before fragment after

namespace Clause

variable {before middle after : Edge} {first second clause : Clause}

theorem Reads.append (left : Clause.Reads before first middle)
    (right : Clause.Reads middle second after) : Clause.Reads before (first ++ second) after := by
  intro fragment written
  obtain ⟨one, two, found, later, rfl⟩ := result_append_eq_ok.mp written
  exact (left one found).append (right two later)

theorem reads_ofFragment {fragment : Fragment} (reads : Fragment.Reads before fragment after) :
    Clause.Reads before (ofFragment fragment) after := by
  intro found written
  cases written
  exact reads

theorem reads_empty : Clause.Reads before empty before := reads_ofFragment Fragment.reads_nil

theorem reads_fail (error : Error) : Clause.Reads before (fail error) after :=
  fun _ written => nomatch written

theorem reads_text {sql : String} (reads : Sql.Reads before sql.toList [] after) :
    Clause.Reads before (text sql) after := reads_ofFragment (Fragment.reads_text reads)

theorem reads_phrase {sql : String} (phrase : isPhrase before sql.toList after = true) :
    Clause.Reads before (text sql) after := reads_text (reads_of_isPhrase phrase)

theorem reads_bound (value : Json) : Clause.Reads .clear (bound value) .token :=
  reads_ofFragment (Fragment.reads_bound value)

theorem reads_ident (name : String) : Clause.Reads .clear (ident name) .token := by
  intro fragment written
  rw [ident, result_ofExcept, map_eq_ok_iff] at written
  obtain ⟨found, -, rfl⟩ := written
  exact Fragment.reads_ident found

theorem reads_qualified (table column : String) :
    Clause.Reads .clear (qualified table column) .token :=
  ((reads_ident table).append (reads_phrase (by decide : isPhrase .token ".".toList .clear = true))).append
    (reads_ident column)

theorem reads_separated {separator : String} {clauses : List Clause}
    (phrase : isPhrase .token separator.toList .clear = true)
    (each : ∀ clause ∈ clauses, Clause.Reads .clear clause .token) :
    Clause.Reads .clear (separated separator clauses) .token := by
  intro fragment written
  rw [result_separated, map_eq_ok_iff] at written
  obtain ⟨fragments, all, rfl⟩ := written
  refine Fragment.reads_separated phrase ?_
  intro found present
  obtain ⟨clause, listed, same⟩ := exists_of_mem_mapM all found present
  exact each clause listed found same

end Clause

end FluentSql
