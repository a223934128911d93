import FluentSql.Json.Parse

/-!
# Strings inside of texts

The string that a JSON text holds is shorter than the text, by two quotes at least, since every
character of it is written with one character or more. So no text holds itself.

Results:
1. `JsonToken.fits_of_scan`: the strings among the tokens of a text.
2. `Json.length_of_parse?`: the string that a text holds.
3. `Json.parse?_ne_self`: no text is the JSON text of itself.
-/

namespace FluentSql

namespace JsonToken

/-- A string takes two characters more than it has, and no literal is a string. -/
def Fits (length : Nat) : JsonToken → Prop
  | .string value => value.length + 2 ≤ length
  | .literal value => value.string? = none
  | _ => True

theorem Fits.mono {token : JsonToken} {length longer : Nat} (fits : token.Fits length)
    (le : length ≤ longer) : token.Fits longer := by
  cases token with
  | string value => exact Nat.le_trans fits le
  | _ => exact fits

theorem fits_of_ofMark? {c : Char} {token : JsonToken} (marked : ofMark? c = some token)
    (length : Nat) : token.Fits length := by
  unfold ofMark? at marked
  split at marked <;> cases marked <;> trivial

theorem fits_of_ofWord? {word : List Char} {token : JsonToken} (found : ofWord? word = some token)
    (length : Nat) : token.Fits length := by
  unfold ofWord? at found
  split at found
  · cases found
    rfl
  · split at found
    · cases found
      rfl
    · split at found
      · cases found
        rfl
      · obtain ⟨number, -, rfl⟩ := Option.map_eq_some_iff.mp found
        rfl

/-- The characters that a string under way has taken at least: its own and the quote before it. -/
def Mode.taken : Mode → Nat
  | .between | .word _ => 0
  | .text read | .escape read | .code read _ _ _ | .pairMark read _ | .pairCode read _ =>
    read.length + 1

/-- The lexer has read that many characters. -/
structure Lexer.Spent (lexer : Lexer) (length : Nat) : Prop where
  tokens : ∀ token ∈ lexer.tokens, token.Fits length
  taken : lexer.mode.taken ≤ length

/-- A complete escape adds one character, or none yet. -/
theorem taken_of_closeCode {read : List Char} {high : Option Nat} {value : Nat} {mode : Mode}
    (closed : closeCode read high value = some mode) : mode.taken ≤ read.length + 2 := by
  unfold closeCode at closed
  dsimp only at closed
  split at closed
  · split at closed <;> cases closed
    exact Nat.le_refl _
  · split at closed
    · cases closed
      exact Nat.le_succ _
    · split at closed <;> cases closed
      exact Nat.le_refl _

namespace Lexer

variable {lexer next : Lexer} {length : Nat} {c : Char}

theorem Spent.push (spent : lexer.Spent length) {token : JsonToken} (fits : token.Fits (length + 1)) :
    Spent ⟨token :: lexer.tokens, .between⟩ (length + 1) :=
  ⟨List.forall_mem_cons.mpr ⟨fits, fun other listed => (spent.tokens other listed).mono (Nat.le_succ _)⟩,
    Nat.zero_le _⟩

theorem Spent.enter (spent : lexer.Spent length) {mode : Mode} (taken : mode.taken ≤ length + 1) :
    Spent { lexer with mode } (length + 1) :=
  ⟨fun token listed => (spent.tokens token listed).mono (Nat.le_succ _), taken⟩

theorem spent_stepBetween (spent : lexer.Spent length) (stepped : lexer.stepBetween c = some next) :
    next.Spent (length + 1) := by
  unfold stepBetween at stepped
  split at stepped
  · cases stepped
    exact spent.enter (Nat.zero_le _)
  · split at stepped
    · cases stepped
      exact spent.enter (Nat.le_add_left 1 length)
    · split at stepped
      · cases stepped
        exact spent.enter (Nat.zero_le _)
      · obtain ⟨token, marked, rfl⟩ := Option.map_eq_some_iff.mp stepped
        exact spent.push (fits_of_ofMark? marked _)

/-- A word that ends takes no character. -/
theorem spent_endWord (spent : lexer.Spent length) {read : List Char}
    (ended : lexer.endWord read = some next) : next.Spent length := by
  obtain ⟨token, found, rfl⟩ := Option.map_eq_some_iff.mp ended
  exact ⟨List.forall_mem_cons.mpr ⟨fits_of_ofWord? found _, spent.tokens⟩, Nat.zero_le _⟩

/-- One character more has been read after a step. -/
theorem spent_step (spent : lexer.Spent length) (stepped : lexer.step c = some next) :
    next.Spent (length + 1) := by
  obtain ⟨tokens, mode⟩ := lexer
  have taken := spent.taken
  unfold step at stepped
  cases mode with
  | between => exact spent_stepBetween spent stepped
  | word read =>
    dsimp only at stepped
    split at stepped
    · cases stepped
      exact spent.enter (Nat.zero_le _)
    · obtain ⟨ended, done, between⟩ := Option.bind_eq_some_iff.mp stepped
      exact spent_stepBetween (spent_endWord spent done) between
  | text read =>
    dsimp only at stepped
    split at stepped
    · cases stepped
      refine spent.push ?_
      show (String.ofList read.reverse).length + 2 ≤ length + 1
      rw [String.length_ofList, List.length_reverse]
      exact Nat.succ_le_succ taken
    · split at stepped
      · cases stepped
        exact spent.enter (Nat.le_succ_of_le taken)
      · split at stepped
        · cases stepped
        · cases stepped
          exact spent.enter (Nat.succ_le_succ taken)
  | escape read =>
    dsimp only at stepped
    split at stepped
    · cases stepped
      exact spent.enter (Nat.le_succ_of_le taken)
    · obtain ⟨character, -, rfl⟩ := Option.map_eq_some_iff.mp stepped
      exact spent.enter (Nat.succ_le_succ taken)
  | code read high missing value =>
    obtain ⟨digit, -, rest⟩ := Option.bind_eq_some_iff.mp stepped
    dsimp only at rest
    split at rest
    · obtain ⟨mode, closed, same⟩ := Option.bind_eq_some_iff.mp rest
      cases same
      exact spent.enter (Nat.le_trans (taken_of_closeCode closed) (Nat.succ_le_succ taken))
    · cases rest
      exact spent.enter (Nat.le_succ_of_le taken)
  | pairMark read high =>
    dsimp only at stepped
    split at stepped <;> cases stepped
    exact spent.enter (Nat.le_succ_of_le taken)
  | pairCode read high =>
    dsimp only at stepped
    split at stepped <;> cases stepped
    exact spent.enter (Nat.le_succ_of_le taken)

theorem spent_steps (spent : lexer.Spent length) {text : List Char}
    (stepped : text.foldlM step lexer = some next) : next.Spent (length + text.length) := by
  induction text generalizing lexer length with
  | nil =>
    cases stepped
    exact spent
  | cons c rest ih =>
    rw [List.foldlM_cons] at stepped
    obtain ⟨between, first, later⟩ := Option.bind_eq_some_iff.mp stepped
    rw [List.length_cons, Nat.add_comm rest.length, ← Nat.add_assoc]
    exact ih (spent_step spent first) later

theorem fits_of_finish (spent : lexer.Spent length) {tokens : List JsonToken}
    (finished : lexer.finish = some tokens) : ∀ token ∈ tokens, token.Fits length := by
  obtain ⟨read, mode⟩ := lexer
  unfold finish at finished
  cases mode with
  | between =>
    cases finished
    exact fun token listed => spent.tokens token (List.mem_reverse.mp listed)
  | word word =>
    obtain ⟨ended, done, rfl⟩ := Option.map_eq_some_iff.mp finished
    exact fun token listed => (spent_endWord spent done).tokens token (List.mem_reverse.mp listed)
  | _ => cases finished

end Lexer

/-- The strings among the tokens of a text are shorter than the text. -/
theorem fits_of_scan {text : List Char} {tokens : List JsonToken}
    (scanned : scan text = some tokens) : ∀ token ∈ tokens, token.Fits text.length := by
  obtain ⟨last, stepped, finished⟩ := Option.bind_eq_some_iff.mp scanned
  have start : Lexer.Spent ⟨[], .between⟩ 0 := ⟨List.forall_mem_nil _, Nat.le_refl 0⟩
  have spent := Lexer.spent_steps start stepped
  rw [Nat.zero_add] at spent
  exact Lexer.fits_of_finish spent finished

end JsonToken

namespace Reader

variable {reader next : Reader} {token : JsonToken} {value : String}

/-- The token is the string, by itself or as a literal. -/
def Tells (token : JsonToken) (value : String) : Prop :=
  token = .string value ∨ token = .literal (.string value)

theorem eq_of_accept {accepted : Json}
    (finished : (reader.accept accepted).expect = .finished (.string value)) :
    accepted = .string value := by
  unfold accept at finished
  split at finished
  · cases finished
    rfl
  · cases finished
  · cases finished

theorem tells_of_begin (begun : reader.begin token = some next)
    (finished : next.expect = .finished (.string value)) : Tells token value := by
  cases token with
  | string own =>
    cases begun
    cases eq_of_accept finished
    exact .inl rfl
  | literal own =>
    cases begun
    rw [eq_of_accept finished]
    exact .inr rfl
  | openArray | openObject =>
    unfold begin enter at begun
    dsimp only at begun
    split at begun <;> cases begun
    cases finished
  | _ => cases begun

theorem not_finished_of_closeArray (closed : reader.closeArray = some next) :
    next.expect ≠ .finished (.string value) := by
  unfold closeArray at closed
  split at closed <;> cases closed
  exact fun finished => nomatch eq_of_accept finished

theorem not_finished_of_closeObject (closed : reader.closeObject = some next) :
    next.expect ≠ .finished (.string value) := by
  unfold closeObject at closed
  split at closed <;> cases closed
  exact fun finished => nomatch eq_of_accept finished

theorem not_finished_of_takeKey {key : String} (taken : reader.takeKey key = some next) :
    next.expect ≠ .finished (.string value) := by
  unfold takeKey at taken
  split at taken <;> cases taken
  nofun

/-- Only the token of a string ends a text as that string. -/
theorem tells_of_step (stepped : reader.step token = some next)
    (finished : next.expect = .finished (.string value)) : Tells token value := by
  unfold step at stepped
  split at stepped
  · exact tells_of_begin stepped finished
  · exact absurd finished (not_finished_of_closeArray stepped)
  · exact tells_of_begin stepped finished
  · exact absurd finished (not_finished_of_closeObject stepped)
  · exact absurd finished (not_finished_of_takeKey stepped)
  · exact absurd finished (not_finished_of_takeKey stepped)
  · cases stepped
    cases finished
  · split at stepped <;> cases stepped <;> cases finished
  · exact absurd finished (not_finished_of_closeArray stepped)
  · exact absurd finished (not_finished_of_closeObject stepped)
  · cases stepped

end Reader

namespace Json

/-- The string that a text holds has two characters less than the text, or still fewer. -/
theorem length_of_parse? {text value : String} (read : parse? text = some (.string value)) :
    value.length + 2 ≤ text.length := by
  obtain ⟨tokens, scanned, rest⟩ := Option.bind_eq_some_iff.mp read
  obtain ⟨reader, ran, ended⟩ := Option.bind_eq_some_iff.mp rest
  have finished : reader.expect = .finished (.string value) := by
    split at ended <;> cases ended
    assumption
  have fits := JsonToken.fits_of_scan scanned
  -- The last token has ended the text, and so it is the string.
  rcases List.eq_nil_or_concat tokens with rfl | ⟨before, last, rfl⟩
  · cases ran
    cases finished
  · rw [List.concat_eq_append] at ran fits
    rw [List.foldlM_append] at ran
    obtain ⟨between, -, stepped⟩ := Option.bind_eq_some_iff.mp ran
    simp only [List.foldlM_cons, List.foldlM_nil, bind_pure] at stepped
    have fit := fits last (List.mem_append_right before List.mem_cons_self)
    rcases Reader.tells_of_step stepped finished with rfl | rfl
    · rwa [String.length_toList] at fit
    · cases fit

/-- No text is the JSON text of itself. -/
theorem parse?_ne_self (text : String) : parse? text ≠ some (.string text) := by
  intro read
  have shorter := length_of_parse? read
  omega

end Json

end FluentSql
