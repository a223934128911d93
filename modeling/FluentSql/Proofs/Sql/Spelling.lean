import FluentSql.Proofs.Sql.Token
import FluentSql.Statement.Fragment

/-!
# Spelling

Which tokens a text spells that stands between other texts. A text stands between two edges: at a
clear edge the last thing was a blank or a mark, or there was nothing; at the other kind a token may
just have ended, so that only a blank or a mark can come next.

Results:
1. `Spells.append`: texts one after the other spell their tokens one after the other.
2. `Spells.tokenise`: the tokens of a text that stands alone.
3. `spells_name`, `spells_number`, `spells_placeholder`: the tokens that vary.
4. `SpellsNames.append`: texts of names and marks.
-/

namespace FluentSql.Sql

/-- What may stand before a place in a text. -/
inductive Edge where
  /-- A blank or a mark, or nothing. -/
  | clear
  /-- Possibly a token that has just ended. -/
  | token
deriving DecidableEq

namespace Edge

/-- A run can be pending at an edge. -/
def admits : Edge → List Char → Bool
  | .clear, run => run.isEmpty
  | .token, _ => true

/-- A text can begin at an edge. -/
def allows : Edge → List Char → Bool
  | .clear, _ => true
  | .token, c :: _ => (separator? c).isSome
  | .token, [] => false

end Edge

/-- Whatever run is pending at the edge before a text, the text completes it and adds these tokens,
up to the edge after it. -/
def Spells (before : Edge) (text : List Char) (tokens : List Token) (after : Edge) : Prop :=
  ∀ run pending, readRun run = some pending → before.admits run = true →
    ∃ found last final, scan run text = some (found, last) ∧ readRun last = some final ∧
      after.admits last = true ∧ found ++ final = pending ++ tokens

namespace Spells

variable {before middle after : Edge} {first second text : List Char} {tokens later : List Token}

theorem append (left : Spells before first tokens middle) (right : Spells middle second later after) :
    Spells before (first ++ second) (tokens ++ later) after := by
  intro run pending read admitted
  obtain ⟨found, last, final, scanned, ended, between, same⟩ := left run pending read admitted
  obtain ⟨found', last', final', scanned', ended', stop, same'⟩ := right last final ended between
  refine ⟨found ++ found', last', final', scan_append scanned scanned', ended', stop, ?_⟩
  rw [List.append_assoc, same', ← List.append_assoc, same, List.append_assoc]

/-- What is spelled after any token is also spelled from a clear edge. -/
theorem fromClear (spells : Spells .token text tokens after) : Spells .clear text tokens after :=
  fun run pending read _ => spells run pending read rfl

/-- A run that is one token is spelled where nothing is pending. -/
theorem ofRun (solid : ∀ c ∈ text, separator? c = none) (read : readRun text = some tokens) :
    Spells .clear text tokens .token := by
  intro run pending first admitted
  obtain rfl := List.isEmpty_iff.mp admitted
  cases first
  refine ⟨[], text, tokens, ?_, read, rfl, rfl⟩
  rw [scan_solid solid, List.nil_append]

/-- A text that stands alone. -/
theorem tokenise {sql : String} (spells : Spells .clear sql.toList tokens after) :
    tokenise sql = some tokens := by
  obtain ⟨found, last, final, scanned, ended, -, same⟩ := spells [] [] rfl rfl
  rw [Sql.tokenise, scanned]
  simp [ended, same]

end Spells

/-! ## Fixed words -/

/-- A scan that begins with a separator completes the run before it. -/
theorem scan_of_separator {run rest last : List Char} {c : Char} {pending between tokens : List Token}
    (read : readRun run = some pending) (kind : separator? c = some between)
    (scanned : scan [] (c :: rest) = some (tokens, last)) :
    scan run (c :: rest) = some (pending ++ tokens, last) := by
  simp only [scan, kind, readRun, Option.bind_eq_bind, Option.bind_some, List.nil_append,
    Option.bind_eq_some_iff, Prod.exists, Option.some.injEq, Prod.mk.injEq] at scanned
  obtain ⟨found, ending, later, rfl, rfl⟩ := scanned
  simp [scan, kind, read, later]

/-- What a text spells where nothing is pending, it spells at every edge at which it can begin. -/
theorem spells_of_scan {before after : Edge} {text last : List Char} {found final : List Token}
    (start : before.allows text = true) (scanned : scan [] text = some (found, last))
    (ended : readRun last = some final) (stop : after.admits last = true) :
    Spells before text (found ++ final) after := by
  intro run pending read admitted
  cases before with
  | clear =>
    obtain rfl := List.isEmpty_iff.mp admitted
    cases read
    exact ⟨found, last, final, scanned, ended, stop, rfl⟩
  | token =>
    cases text with
    | nil => cases start
    | cons c rest =>
      obtain ⟨between, kind⟩ := Option.isSome_iff_exists.mp start
      refine ⟨pending ++ found, last, final, scan_of_separator read kind scanned, ended, stop, ?_⟩
      rw [List.append_assoc]

/-- Whether a text that can begin at one edge and end at the other spells these tokens, none of which
is a placeholder. -/
def isSpelling (before : Edge) (text : List Char) (tokens : List Token) (after : Edge) : Bool :=
  (placeholders tokens).isEmpty && before.allows text &&
    match scan [] text with
    | none => false
    | some (found, last) =>
      after.admits last && (readRun last).any fun final => found ++ final == tokens

theorem spells_of_isSpelling {before after : Edge} {text : List Char} {tokens : List Token}
    (spelling : isSpelling before text tokens after = true) :
    Spells before text tokens after ∧ placeholders tokens = [] := by
  rw [isSpelling, Bool.and_eq_true, Bool.and_eq_true, List.isEmpty_iff] at spelling
  obtain ⟨⟨unbound, start⟩, spelling⟩ := spelling
  refine ⟨?_, unbound⟩
  split at spelling
  · cases spelling
  · rename_i found last scanned
    rw [Bool.and_eq_true, Option.any_eq_true] at spelling
    obtain ⟨stop, final, ended, same⟩ := spelling
    rw [← eq_of_beq same]
    exact spells_of_scan start scanned ended stop

/-! ## Tokens that vary -/

theorem separator?_of_isNameChar {c : Char} (named : isNameChar c = true) : separator? c = none := by
  cases kind : separator? c with
  | none => rfl
  | some between =>
    exfalso
    simp only [separator?] at kind
    split at kind
    · rename_i blank
      subst blank
      exact absurd named (by decide)
    · unfold Mark.ofChar? at kind
      split at kind <;> first | exact absurd named (by decide) | simp at kind

theorem separator?_of_isDigit {c : Char} (digit : c.isDigit = true) : separator? c = none :=
  separator?_of_isNameChar (by simp [isNameChar, Char.isAlphanum, digit])

theorem readRun_name (name : Identifier) : readRun name.sql.toList = some [.name name] := by
  have simple : Identifier.ofName? name.name = some name := Identifier.ofName?_eq_some_iff.mpr rfl
  simp [Identifier.sql, readRun, Token.ofRun?, simple]

/-- A quoted name is one token. -/
theorem spells_name (name : Identifier) : Spells .clear name.sql.toList [.name name] .token := by
  refine Spells.ofRun ?_ (readRun_name name)
  intro c present
  simp only [Identifier.sql, String.toList_append, List.mem_append] at present
  rcases present with (present | present) | present
  · obtain rfl : c = '"' := by simpa using present
    decide
  · exact separator?_of_isNameChar (isNameChar_of_isSimpleName name.simple c present)
  · obtain rfl : c = '"' := by simpa using present
    decide

theorem digitsOf_eq_cons (n : Nat) : ∃ c rest, digitsOf n = c :: rest ∧ c.isDigit = true := by
  cases digits : digitsOf n with
  | nil => exact absurd digits (digitsOf_ne_nil n)
  | cons c rest =>
    have present : c ∈ digitsOf n := by simp [digits]
    exact ⟨c, rest, rfl, isDigit_of_mem_digitsOf present⟩

theorem readRun_number (n : Nat) : readRun (natText n).toList = some [.number n] := by
  obtain ⟨c, rest, digits, digit⟩ := digitsOf_eq_cons n
  have read := natural?_digitsOf n
  have notQuote : c ≠ '"' := fun same => absurd digit (by rw [same]; decide)
  have notDollar : c ≠ '$' := fun same => absurd digit (by rw [same]; decide)
  rw [natText, String.toList_ofList]
  rw [digits] at read ⊢
  rw [readRun, Token.ofRun?]
  · simp [read]
  · exact fun later same => notQuote (List.cons.inj same).1
  · exact fun later same => notDollar (List.cons.inj same).1
  · exact fun same => nomatch same

/-- A number in decimal is one token. -/
theorem spells_number (n : Nat) : Spells .clear (natText n).toList [.number n] .token := by
  refine Spells.ofRun ?_ (readRun_number n)
  intro c present
  rw [natText, String.toList_ofList] at present
  exact separator?_of_isDigit (isDigit_of_mem_digitsOf present)

theorem readRun_placeholder (n : Nat) :
    readRun (Fragment.placeholder n).toList = some [.placeholder n] := by
  simp [Fragment.placeholder, natText, readRun, Token.ofRun?, natural?_digitsOf]

/-- A placeholder is one token. -/
theorem spells_placeholder (n : Nat) :
    Spells .clear (Fragment.placeholder n).toList [.placeholder n] .token := by
  refine Spells.ofRun ?_ (readRun_placeholder n)
  intro c present
  simp only [Fragment.placeholder, natText, String.toList_append, String.toList_ofList,
    List.mem_append] at present
  rcases present with present | present
  · obtain rfl : c = '$' := by simpa using present
    decide
  · exact separator?_of_isDigit (isDigit_of_mem_digitsOf present)

/-! ## Names and marks -/

/-- The token is a name or a mark, and so no word and no value. -/
def Token.isNaming : Token → Bool
  | .name _ | .mark _ => true
  | .reserved _ | .number _ | .placeholder _ => false

theorem placeholders_of_isNaming {tokens : List Token}
    (naming : ∀ token ∈ tokens, token.isNaming = true) : placeholders tokens = [] := by
  refine List.filterMap_eq_nil_iff.mpr fun token listed => ?_
  have named := naming token listed
  cases token <;> first | rfl | cases named

/-- A text spells names and marks only. -/
def SpellsNames (before : Edge) (text : List Char) (after : Edge) : Prop :=
  ∃ tokens, Spells before text tokens after ∧ ∀ token ∈ tokens, token.isNaming = true

namespace SpellsNames

variable {before middle after : Edge} {first second text : List Char}

theorem append (left : SpellsNames before first middle) (right : SpellsNames middle second after) :
    SpellsNames before (first ++ second) after := by
  obtain ⟨tokens, spelled, naming⟩ := left
  obtain ⟨tokens', spelled', naming'⟩ := right
  exact ⟨tokens ++ tokens', spelled.append spelled', List.forall_mem_append.mpr ⟨naming, naming'⟩⟩

theorem nil : SpellsNames .clear [] .token :=
  ⟨[], fun run pending read _ => ⟨[], run, pending, rfl, read, rfl, by simp⟩, List.forall_mem_nil _⟩

theorem name (name : Identifier) : SpellsNames .clear name.sql.toList .token :=
  ⟨[.name name], spells_name name, List.forall_mem_singleton.mpr rfl⟩

theorem marks {tokens : List Token} (spelling : isSpelling before text tokens after = true)
    (naming : tokens.all Token.isNaming = true) : SpellsNames before text after :=
  ⟨tokens, (spells_of_isSpelling spelling).1, List.all_eq_true.mp naming⟩

end SpellsNames

end FluentSql.Sql
