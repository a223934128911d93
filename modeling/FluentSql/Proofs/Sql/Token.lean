import Mathlib.Data.List.TakeWhile
import FluentSql.Proofs.Number.Numeral
import FluentSql.Scripted.Server
import FluentSql.Proofs.Statement.Identifier

/-!
# Tokens of statements

What the text of a statement is made of: reserved words and signs, marks, quoted names, numbers and
placeholders. Two tokens that are not marks have a blank or a mark between them, so a text is cut
into runs at its blanks and marks, and each run must be one token. There is no token for a quote of
a literal, for a semicolon or for a comment.

Results:
1. `scan_append`: the scanner goes through two texts one after the other.
2. `isSqlChar_of_tokenise`: the characters that can occur in a text that has tokens.
3. `placeholderCount_of_tokenise`: the number of values that a server expects.
-/

namespace FluentSql.Sql

/-! ## Definitions -/

/-- The words and signs that statements are written with. -/
def reservedWords : List String :=
  ["SELECT", "COUNT", "AS", "FROM", "WHERE", "AND", "OR", "IN", "IS", "NULL", "TRUE", "FALSE",
   "false", "LIKE", "ILIKE", "ORDER", "BY", "ASC", "DESC", "NULLS", "FIRST", "LAST", "LIMIT",
   "OFFSET", "INSERT", "INTO", "DEFAULT", "VALUES", "ON", "CONFLICT", "DO", "NOTHING", "UPDATE",
   "SET", "EXCLUDED", "DELETE", "RETURNING", "=", "!=", "<", "<=", ">", ">="]

/-- A reserved word or sign. -/
structure Reserved where
  word : String
  listed : word ∈ reservedWords
deriving DecidableEq, Repr

/-- The reserved word that a text is. -/
def Reserved.ofText? (text : String) : Option Reserved :=
  if listed : text ∈ reservedWords then some ⟨text, listed⟩ else none

/-- The marks, which may touch other tokens. -/
inductive Mark where
  | star
  | comma
  | point
  | opening
  | closing
deriving DecidableEq, Repr

/-- The mark that a character is. -/
def Mark.ofChar? : Char → Option Mark
  | '*' => some .star
  | ',' => some .comma
  | '.' => some .point
  | '(' => some .opening
  | ')' => some .closing
  | _ => none

/-- A token of a statement. -/
inductive Token where
  | reserved (word : Reserved)
  | mark (mark : Mark)
  /-- A simple name in double quotes. -/
  | name (name : Identifier)
  | number (value : Nat)
  | placeholder (index : Nat)
deriving DecidableEq

namespace Token

/-- The number of a placeholder. -/
def placeholder? : Token → Option Nat
  | .placeholder index => some index
  | _ => none

/-- The token that a run of characters without blanks and marks is. -/
def ofRun? : List Char → Option Token
  | '"' :: rest =>
    if rest.getLast? = some '"' then
      (Identifier.ofName? (String.ofList rest.dropLast)).map .name
    else none
  | '$' :: digits => (natural? digits).map .placeholder
  | run =>
    match natural? run with
    | some value => some (.number value)
    | none => (Reserved.ofText? (String.ofList run)).map .reserved

end Token

/-- The tokens of a run, which may be empty. -/
def readRun : List Char → Option (List Token)
  | [] => some []
  | run => (Token.ofRun? run).map ([·])

/-- The tokens of a character that separates runs. -/
def separator? (c : Char) : Option (List Token) :=
  if c = ' ' then some [] else (Mark.ofChar? c).map ([.mark ·])

/-- The tokens that are complete after a text, and the run that is not; the text follows a run. -/
def scan (run : List Char) : List Char → Option (List Token × List Char)
  | [] => some ([], run)
  | c :: rest =>
    match separator? c with
    | none => scan (run ++ [c]) rest
    | some between => do
      let before ← readRun run
      let (tokens, last) ← scan [] rest
      some (before ++ between ++ tokens, last)

/-- The tokens of a text, all of which must be read. -/
def tokenise (sql : String) : Option (List Token) := do
  let (tokens, last) ← scan [] sql.toList
  let final ← readRun last
  some (tokens ++ final)

/-- The numbers of the placeholders among tokens, in order. -/
def placeholders (tokens : List Token) : List Nat := tokens.filterMap Token.placeholder?

@[simp] theorem placeholders_nil : placeholders [] = [] := rfl

@[simp] theorem placeholders_append (first second : List Token) :
    placeholders (first ++ second) = placeholders first ++ placeholders second :=
  List.filterMap_append

/-! ## The scanner -/

/-- What a scan of two texts gives, from what the scans of each give. -/
theorem scan_append {run middle last first second : List Char} {tokens later : List Token}
    (left : scan run first = some (tokens, middle))
    (right : scan middle second = some (later, last)) :
    scan run (first ++ second) = some (tokens ++ later, last) := by
  induction first generalizing run tokens with
  | nil =>
    simp only [scan, Option.some.injEq, Prod.mk.injEq] at left
    obtain ⟨rfl, rfl⟩ := left
    exact right
  | cons c rest ih =>
    simp only [List.cons_append, scan] at left ⊢
    cases kind : separator? c with
    | none =>
      simp only [kind] at left
      exact ih left
    | some between =>
      simp only [kind, Option.bind_eq_bind, Option.bind_eq_some_iff, Prod.exists,
        Option.some.injEq, Prod.mk.injEq] at left
      obtain ⟨before, read, found, ending, scanned, rfl, rfl⟩ := left
      simp only [read, ih scanned, Option.bind_eq_bind, Option.bind_some]
      simp

/-- A text without separators only makes the run longer. -/
theorem scan_solid {run text : List Char} (solid : ∀ c ∈ text, separator? c = none) :
    scan run text = some ([], run ++ text) := by
  induction text generalizing run with
  | nil => simp [scan]
  | cons c rest ih =>
    have head := solid c (by simp)
    have tail : ∀ d ∈ rest, separator? d = none := fun d present => solid d (by simp [present])
    simp [scan, head, ih tail]

/-! ## The characters of statements -/

/-- The characters that tokens are made of. -/
def isSqlChar (c : Char) : Bool :=
  isNameChar c || [' ', '*', ',', '.', '(', ')', '"', '$', '=', '!', '<', '>'].contains c

theorem isSqlChar_of_separator? {c : Char} {between : List Token}
    (kind : separator? c = some between) : isSqlChar c = true := by
  simp only [separator?] at kind
  split at kind
  · rename_i blank
    subst blank
    decide
  · unfold Mark.ofChar? at kind
    split at kind <;> first | decide | simp at kind

theorem isSqlChar_of_isNameChar {c : Char} (named : isNameChar c = true) : isSqlChar c = true := by
  simp [isSqlChar, named]

theorem isSqlChar_of_isDigit {c : Char} (digit : c.isDigit = true) : isSqlChar c = true :=
  isSqlChar_of_isNameChar (by simp [isNameChar, Char.isAlphanum, digit])

theorem isSqlChar_of_reserved : ∀ word ∈ reservedWords, ∀ c ∈ word.toList, isSqlChar c = true := by
  have all : ∀ word ∈ reservedWords, word.toList.all isSqlChar = true := by decide
  intro word listed
  exact List.all_eq_true.mp (all word listed)

/-- The cases of a run that is a token. -/
theorem ofRun?_cases {run : List Char} {token : Token} (read : Token.ofRun? run = some token) :
    (∃ name : Identifier, run = '"' :: (name.name.toList ++ ['"']) ∧ token = .name name) ∨
    (∃ digits number, run = '$' :: digits ∧ natural? digits = some number ∧
      token = .placeholder number) ∨
    (∃ value, natural? run = some value ∧ token = .number value) ∨
    (∃ word : Reserved, run = word.word.toList ∧ token = .reserved word) := by
  unfold Token.ofRun? at read
  split at read
  · rename_i rest
    split at read
    · rename_i ending
      obtain ⟨name, named, rfl⟩ := Option.map_eq_some_iff.mp read
      rw [Identifier.ofName?_eq_some_iff] at named
      obtain ⟨inside, rfl⟩ := List.getLast?_eq_some_iff.mp ending
      exact .inl ⟨name, by simp [named], rfl⟩
    · cases read
  · rename_i digits
    obtain ⟨number, value, rfl⟩ := Option.map_eq_some_iff.mp read
    exact .inr (.inl ⟨digits, number, rfl, value, rfl⟩)
  · split at read
    · rename_i value found
      cases read
      exact .inr (.inr (.inl ⟨value, found, rfl⟩))
    · obtain ⟨word, listed, rfl⟩ := Option.map_eq_some_iff.mp read
      simp only [Reserved.ofText?] at listed
      split at listed
      · cases listed
        exact .inr (.inr (.inr ⟨_, by simp, rfl⟩))
      · cases listed

theorem isSqlChar_of_readRun {run : List Char} {tokens : List Token}
    (read : readRun run = some tokens) : ∀ c ∈ run, isSqlChar c = true := by
  unfold readRun at read
  split at read
  · simp
  · obtain ⟨token, found, -⟩ := Option.map_eq_some_iff.mp read
    rcases ofRun?_cases found with ⟨name, rfl, -⟩ | ⟨digits, number, rfl, value, -⟩ |
      ⟨value, numeral, -⟩ | ⟨word, rfl, -⟩
    · intro c present
      simp only [List.mem_cons, List.mem_append, List.not_mem_nil, or_false] at present
      rcases present with rfl | present | rfl
      · decide
      · exact isSqlChar_of_isNameChar (isNameChar_of_isSimpleName name.simple c present)
      · decide
    · intro c present
      rcases List.mem_cons.mp present with rfl | present
      · decide
      · exact isSqlChar_of_isDigit (isDigit_of_natural? value c present)
    · exact fun c present => isSqlChar_of_isDigit (isDigit_of_natural? numeral c present)
    · exact isSqlChar_of_reserved word.word word.listed

theorem isSqlChar_of_scan {run text last : List Char} {tokens final : List Token}
    (scanned : scan run text = some (tokens, last)) (read : readRun last = some final) :
    ∀ c ∈ run ++ text, isSqlChar c = true := by
  induction text generalizing run tokens with
  | nil =>
    simp only [scan, Option.some.injEq, Prod.mk.injEq] at scanned
    obtain ⟨-, rfl⟩ := scanned
    simpa using isSqlChar_of_readRun read
  | cons c rest ih =>
    simp only [scan] at scanned
    cases kind : separator? c with
    | none =>
      simp only [kind] at scanned
      simpa using ih scanned
    | some between =>
      simp only [kind, Option.bind_eq_bind, Option.bind_eq_some_iff, Prod.exists] at scanned
      obtain ⟨before, first, found, ending, later, same⟩ := scanned
      simp only [Option.some.injEq, Prod.mk.injEq] at same
      obtain ⟨-, rfl⟩ := same
      intro d present
      simp only [List.mem_append, List.mem_cons] at present
      rcases present with present | rfl | present
      · exact isSqlChar_of_readRun first d present
      · exact isSqlChar_of_separator? kind
      · exact ih later d (by simpa using present)

/-- What a text that has tokens is written with; no quote of a literal, no semicolon, no dash and no
slash is among it. -/
theorem isSqlChar_of_tokenise {sql : String} {tokens : List Token}
    (read : tokenise sql = some tokens) : ∀ c ∈ sql.toList, isSqlChar c = true := by
  simp only [tokenise, Option.bind_eq_bind, Option.bind_eq_some_iff, Prod.exists] at read
  obtain ⟨found, last, scanned, final, ending, -⟩ := read
  simpa using isSqlChar_of_scan scanned ending

/-! ## The number of values that a server expects -/

/-- The greatest of some numbers; of none it is zero. -/
def greatest (numbers : List Nat) : Nat := numbers.foldr max 0

theorem greatest_append (first second : List Nat) :
    greatest (first ++ second) = max (greatest first) (greatest second) := by
  induction first with
  | nil => simp [greatest]
  | cons number rest ih =>
    simp only [greatest, List.cons_append, List.foldr_cons] at ih ⊢
    rw [ih, Nat.max_assoc]

theorem greatest_range' (count : Nat) : greatest (List.range' 1 count) = count := by
  induction count with
  | zero => rfl
  | succ count ih =>
    rw [List.range'_1_concat, greatest_append, ih]
    simp only [greatest, List.foldr_cons, List.foldr_nil]
    omega

theorem placeholderCount_of_no_dollar {text : List Char} (none : '$' ∉ text) :
    placeholderCount text = 0 := by
  induction text with
  | nil => rfl
  | cons c rest ih =>
    simp only [List.mem_cons, not_or] at none
    simp [placeholderCount, ih none.2, Ne.symm none.1]

/-- The count of two texts, the second of which does not go on with a number. -/
theorem placeholderCount_append {first second : List Char}
    (apart : ∀ c ∈ second.head?, c.isDigit = false) :
    placeholderCount (first ++ second) = max (placeholderCount first) (placeholderCount second) := by
  induction first with
  | nil => simp [placeholderCount]
  | cons c rest ih =>
    have stop : second.takeWhile Char.isDigit = [] := by
      cases second with
      | nil => rfl
      | cons d later => simpa [List.takeWhile_cons] using apart d rfl
    have digits : (rest ++ second).takeWhile Char.isDigit = rest.takeWhile Char.isDigit := by
      rw [List.takeWhile_append]
      split
      · rename_i whole
        rw [stop, List.append_nil, (List.takeWhile_prefix _).eq_of_length whole]
      · rfl
    rw [List.cons_append, placeholderCount, placeholderCount, digits, ih, Nat.max_assoc]

theorem not_mem_of_isDigit {text : List Char} {c : Char} (digits : ∀ d ∈ text, d.isDigit = true)
    (other : c.isDigit = false) : c ∉ text := by
  intro present
  rw [digits c present] at other
  cases other

theorem dollar_not_mem_reserved : ∀ word ∈ reservedWords, '$' ∉ word.toList := by decide

theorem placeholderCount_of_readRun {run : List Char} {tokens : List Token}
    (read : readRun run = some tokens) :
    placeholderCount run = greatest (placeholders tokens) := by
  unfold readRun at read
  split at read
  · cases read
    rfl
  · obtain ⟨token, found, rfl⟩ := Option.map_eq_some_iff.mp read
    rcases ofRun?_cases found with ⟨name, rfl, rfl⟩ | ⟨digits, number, rfl, value, rfl⟩ |
      ⟨value, numeral, rfl⟩ | ⟨word, rfl, rfl⟩
    · have absent : '$' ∉ name.name.toList := fun present => by
        simpa [isNameChar] using isNameChar_of_isSimpleName name.simple '$' present
      rw [placeholderCount_of_no_dollar (by simpa using absent)]
      rfl
    · have all := isDigit_of_natural? value
      have whole : digits.takeWhile Char.isDigit = digits :=
        List.takeWhile_eq_self_iff.mpr all
      have none : placeholderCount digits = 0 :=
        placeholderCount_of_no_dollar (not_mem_of_isDigit all (by decide))
      simp [placeholderCount, whole, none, value, placeholders, Token.placeholder?, greatest]
    · rw [placeholderCount_of_no_dollar
        (not_mem_of_isDigit (isDigit_of_natural? numeral) (by decide))]
      rfl
    · rw [placeholderCount_of_no_dollar (dollar_not_mem_reserved _ word.listed)]
      rfl

theorem placeholders_of_separator? {c : Char} {between : List Token}
    (kind : separator? c = some between) :
    placeholders between = [] ∧ c.isDigit = false ∧ c ≠ '$' := by
  simp only [separator?] at kind
  split at kind
  · rename_i blank
    cases kind
    subst blank
    decide
  · unfold Mark.ofChar? at kind
    split at kind <;> first | (cases kind; decide) | simp at kind

theorem placeholderCount_of_scan {run text last : List Char} {tokens final : List Token}
    (scanned : scan run text = some (tokens, last)) (read : readRun last = some final) :
    placeholderCount (run ++ text) = greatest (placeholders (tokens ++ final)) := by
  induction text generalizing run tokens with
  | nil =>
    simp only [scan, Option.some.injEq, Prod.mk.injEq] at scanned
    obtain ⟨rfl, rfl⟩ := scanned
    simpa using placeholderCount_of_readRun read
  | cons c rest ih =>
    simp only [scan] at scanned
    cases kind : separator? c with
    | none =>
      simp only [kind] at scanned
      simpa using ih scanned
    | some between =>
      simp only [kind, Option.bind_eq_bind, Option.bind_eq_some_iff, Prod.exists,
        Option.some.injEq, Prod.mk.injEq] at scanned
      obtain ⟨before, first, found, ending, later, rfl, rfl⟩ := scanned
      obtain ⟨noNumbers, noDigit, noDollar⟩ := placeholders_of_separator? kind
      have tail : placeholderCount (c :: rest) = greatest (placeholders (found ++ final)) := by
        simpa [placeholderCount, noDollar] using ih later
      rw [placeholderCount_append (by simpa using noDigit), placeholderCount_of_readRun first, tail,
        ← greatest_append]
      simp [noNumbers]

/-- A server expects as many values as the greatest number of a placeholder says. -/
theorem placeholderCount_of_tokenise {sql : String} {tokens : List Token}
    (read : tokenise sql = some tokens) :
    placeholderCount sql.toList = greatest (placeholders tokens) := by
  simp only [tokenise, Option.bind_eq_bind, Option.bind_eq_some_iff, Prod.exists,
    Option.some.injEq] at read
  obtain ⟨found, last, scanned, final, ending, rfl⟩ := read
  simpa using placeholderCount_of_scan scanned ending

end FluentSql.Sql
