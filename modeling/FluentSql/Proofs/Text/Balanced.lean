import Mathlib.Algebra.Group.Nat.Even
import FluentSql.Proofs.Text.Rejoined

/-!
# Balanced texts

A text is balanced when every `)` outside double quotes closes a parenthesis that was opened before
it, and at the end neither a parenthesis nor a quote is open.

Results:
1. `Nesting.through_eq_some_iff`: what is open after a text, by counting.
2. `exists_segments_iff`: just the balanced texts have segments.
3. `Balanced.or_closesEarly`: what stands between the parentheses at the ends of a balanced text is
   balanced itself, or it closes the first of them early.
-/

namespace FluentSql

/-! ## Counting -/

/-- The characters of a text outside double quotes, without the quotes. The text itself may begin
between quotes. -/
def unquotedChars (inQuotes : Bool) : List Char → List Char
  | [] => []
  | c :: rest =>
    if c = '"' then unquotedChars (!inQuotes) rest
    else if inQuotes then unquotedChars inQuotes rest
    else c :: unquotedChars inQuotes rest

/-- The number of parentheses that a text opens. -/
def openings (inQuotes : Bool) (text : List Char) : Nat := (unquotedChars inQuotes text).count '('

/-- The number of parentheses that a text closes. -/
def closings (inQuotes : Bool) (text : List Char) : Nat := (unquotedChars inQuotes text).count ')'

section

variable (inQuotes : Bool) (rest : List Char)

@[simp] theorem openings_nil : openings inQuotes [] = 0 := rfl

@[simp] theorem closings_nil : closings inQuotes [] = 0 := rfl

@[simp] theorem openings_quote : openings inQuotes ('"' :: rest) = openings (!inQuotes) rest := rfl

@[simp] theorem closings_quote : closings inQuotes ('"' :: rest) = closings (!inQuotes) rest := rfl

@[simp] theorem openings_open : openings false ('(' :: rest) = openings false rest + 1 :=
  List.count_cons_self

@[simp] theorem closings_open : closings false ('(' :: rest) = closings false rest :=
  List.count_cons_of_ne (by decide)

@[simp] theorem openings_close : openings false (')' :: rest) = openings false rest :=
  List.count_cons_of_ne (by decide)

@[simp] theorem closings_close : closings false (')' :: rest) = closings false rest + 1 :=
  List.count_cons_self

end

/-- A character that is neither a quote nor, outside quotes, a parenthesis. -/
theorem openings_other {inQuotes : Bool} {c : Char} (notQuote : c ≠ '"')
    (other : inQuotes = true ∨ c ≠ '(' ∧ c ≠ ')') (rest : List Char) :
    openings inQuotes (c :: rest) = openings inQuotes rest ∧
      closings inQuotes (c :: rest) = closings inQuotes rest := by
  unfold openings closings
  rw [unquotedChars, if_neg notQuote]
  rcases other with rfl | ⟨notOpen, notClose⟩
  · exact ⟨rfl, rfl⟩
  · cases inQuotes with
    | true => exact ⟨rfl, rfl⟩
    | false => exact ⟨List.count_cons_of_ne notOpen, List.count_cons_of_ne notClose⟩

/-- Every closing parenthesis has an open partner before it, and nothing is left open. -/
structure Balanced (text : List Char) : Prop where
  partners : ∀ before, before <+: text → closings false before ≤ openings false before
  settled : openings false text = closings false text
  quotes : Even (text.count '"')

/-! ## The nesting after a text -/

namespace Nesting

/-- The nesting after a text, commas and all; `none` when a parenthesis in it closes nothing. -/
def through (nesting : Nesting) (text : List Char) : Option Nesting := text.foldlM after nesting

variable {nesting next last : Nesting} {first second text : List Char}

theorem through_cons (nesting : Nesting) (c : Char) (rest : List Char) :
    nesting.through (c :: rest) = (nesting.after c).bind (·.through rest) := List.foldlM_cons

theorem through_append (nesting : Nesting) (first second : List Char) :
    nesting.through (first ++ second) = (nesting.through first).bind (·.through second) :=
  List.foldlM_append

theorem through_of_across (crossed : nesting.across text = some next) :
    nesting.through text = some next := by
  induction text generalizing nesting with
  | nil => exact crossed
  | cons c rest ih =>
    rw [across] at crossed
    split at crossed
    · cases crossed
    · obtain ⟨following, stepped, crossed⟩ := Option.bind_eq_some_iff.mp crossed
      rw [through_cons, stepped]
      exact ih crossed

theorem through_flat {blanks : List Char} (flat : ∀ c ∈ blanks, isFlat c = true)
    (nesting : Nesting) : nesting.through blanks = some nesting := by
  refine through_of_across ?_
  induction blanks with
  | nil => rfl
  | cons c rest ih =>
    rw [across_flat (flat c (by simp))]
    exact ih fun d present => flat d (List.mem_cons_of_mem c present)

/-- Only a `)` outside all parentheses and quotes closes nothing. -/
theorem after_eq_none_iff {c : Char} : nesting.after c = none ↔ nesting = outside ∧ c = ')' := by
  rcases nesting with ⟨depth, inQuotes⟩
  unfold after outside
  constructor
  · intro fails
    split_ifs at fails with quote quoted opens closes
    cases depth with
    | zero => exact ⟨by simpa using quoted, closes⟩
    | succ depth => cases fails
  · rintro ⟨same, rfl⟩
    cases same
    rfl

/-- The first `)` that closes nothing stands outside all parentheses and quotes. -/
theorem through_eq_none_iff :
    nesting.through text = none ↔
      ∃ inner later, text = inner ++ ')' :: later ∧ nesting.through inner = some outside := by
  constructor
  · intro fails
    induction text generalizing nesting with
    | nil => cases fails
    | cons c rest ih =>
      rw [through_cons] at fails
      cases stepped : nesting.after c with
      | none =>
        obtain ⟨rfl, rfl⟩ := after_eq_none_iff.mp stepped
        exact ⟨[], rest, rfl, rfl⟩
      | some next =>
        rw [stepped] at fails
        obtain ⟨inner, later, rfl, reached⟩ := ih fails
        refine ⟨c :: inner, later, rfl, ?_⟩
        rw [through_cons, stepped]
        exact reached
  · rintro ⟨inner, later, rfl, reached⟩
    rw [through_append, reached]
    rfl

theorem forall_prefix_cons {c : Char} {rest : List Char} {holds : List Char → Prop} :
    (∀ before, before <+: c :: rest → holds before) ↔
      holds [] ∧ ∀ before, before <+: rest → holds (c :: before) := by
  constructor
  · intro all
    exact ⟨all [] List.nil_prefix, fun before begins =>
      all _ (List.prefix_cons_inj c |>.mpr begins)⟩
  · rintro ⟨none, some⟩ before begins
    rcases List.prefix_cons_iff.mp begins with rfl | ⟨rest', rfl, later⟩
    · exact none
    · exact some rest' later

/-- What is open after a text: what was open before it and what it opens, without what it closes. And
nowhere is more closed than is open there. -/
theorem through_eq_some_iff {depth depth' : Nat} {inQuotes inQuotes' : Bool} :
    (Nesting.mk depth inQuotes).through text = some ⟨depth', inQuotes'⟩ ↔
      (∀ before, before <+: text → closings inQuotes before ≤ depth + openings inQuotes before) ∧
        depth' + closings inQuotes text = depth + openings inQuotes text ∧
        (inQuotes' = inQuotes ↔ Even (text.count '"')) := by
  induction text generalizing depth inQuotes with
  | nil =>
    have none : ∀ before, before <+: [] → closings inQuotes before ≤ depth + openings inQuotes before := by
      intro before begins
      rw [List.prefix_nil.mp begins]
      exact Nat.zero_le _
    show some (Nesting.mk depth inQuotes) = some ⟨depth', inQuotes'⟩ ↔ _
    simp only [Option.some_inj, mk.injEq, openings_nil, closings_nil, List.count_nil, Nat.add_zero,
      Even.zero, iff_true]
    exact ⟨fun same => ⟨none, same.1.symm, same.2.symm⟩, fun same => ⟨same.2.1.symm, same.2.2.symm⟩⟩
  | cons c rest ih =>
    rw [through_cons, forall_prefix_cons]
    by_cases quote : c = '"'
    · subst quote
      have stepped : (Nesting.mk depth inQuotes).after '"' = some ⟨depth, !inQuotes⟩ := rfl
      have parity : (inQuotes' = !inQuotes ↔ Even (rest.count '"')) ↔
          (inQuotes' = inQuotes ↔ Even (('"' :: rest).count '"')) := by
        rw [List.count_cons_self, Nat.even_add_one]
        cases inQuotes <;> cases inQuotes' <;> simp
      rw [stepped, Option.bind_some, ih, parity]
      simp
    · have unquoted : (c :: rest).count '"' = rest.count '"' := List.count_cons_of_ne quote
      by_cases mark : inQuotes = false ∧ (c = '(' ∨ c = ')')
      · obtain ⟨rfl, rfl | rfl⟩ := mark
        · have stepped : (Nesting.mk depth false).after '(' = some ⟨depth + 1, false⟩ := rfl
          rw [stepped, Option.bind_some, ih, unquoted]
          simp [Nat.add_right_comm, Nat.add_assoc]
        · cases depth with
          | zero =>
            -- The parenthesis is already too much by itself.
            have fails : (Nesting.mk 0 false).after ')' = none := rfl
            rw [fails, Option.bind_none]
            constructor
            · rintro ⟨⟩
            · rintro ⟨⟨-, partners⟩, -⟩
              cases partners [] List.nil_prefix
          | succ depth =>
            have stepped : (Nesting.mk (depth + 1) false).after ')' = some ⟨depth, false⟩ := rfl
            rw [stepped, Option.bind_some, ih, unquoted]
            simp [Nat.add_right_comm depth 1, ← Nat.add_assoc]
      · have other : inQuotes = true ∨ c ≠ '(' ∧ c ≠ ')' := by
          rwa [not_and_or, Bool.not_eq_false, not_or] at mark
        have stepped : (Nesting.mk depth inQuotes).after c = some ⟨depth, inQuotes⟩ := by
          rcases other with rfl | ⟨notOpen, notClose⟩
          · simp [after, quote]
          · simp [after, quote, notOpen, notClose]
        rw [stepped, Option.bind_some, ih, unquoted]
        simp [openings_other quote other]

/-- What a text does to a nesting it does inside more parentheses, too. -/
theorem through_deeper {depth depth' : Nat} {inQuotes inQuotes' : Bool}
    (reached : (Nesting.mk depth inQuotes).through text = some ⟨depth', inQuotes'⟩) (more : Nat) :
    (Nesting.mk (depth + more) inQuotes).through text = some ⟨depth' + more, inQuotes'⟩ := by
  induction text generalizing depth inQuotes with
  | nil =>
    cases reached
    rfl
  | cons c rest ih =>
    rw [through_cons] at reached ⊢
    obtain ⟨⟨depth, inQuotes⟩, stepped, later⟩ := Option.bind_eq_some_iff.mp reached
    rw [after_deeper stepped more]
    exact ih later

end Nesting

open Nesting

theorem balanced_iff_through {text : List Char} :
    Balanced text ↔ outside.through text = some outside := by
  unfold outside
  rw [through_eq_some_iff]
  simp only [Nat.zero_add, true_iff]
  constructor
  · rintro ⟨partners, settled, quotes⟩
    exact ⟨partners, settled.symm, quotes⟩
  · rintro ⟨partners, settled, quotes⟩
    exact ⟨partners, settled.symm, quotes⟩

/-! ## Segments -/

theorem rawSegments_of_none {nesting : Nesting} {text : List Char}
    (fails : nesting.through text = none) :
    rawSegments nesting text = .error .unbalancedClose := by
  induction text generalizing nesting with
  | nil => cases fails
  | cons c rest ih =>
    rw [through_cons] at fails
    rw [rawSegments]
    cases stepped : nesting.after c with
    | none => rfl
    | some next =>
      rw [stepped] at fails
      dsimp only
      rw [ih fails, error_bind]

theorem rawSegments_of_some {nesting last : Nesting} {text : List Char}
    (reached : nesting.through text = some last) :
    (∃ raw, rawSegments nesting text = .ok raw) ↔ last = outside := by
  induction text generalizing nesting with
  | nil =>
    cases reached
    rcases last with ⟨depth, inQuotes⟩
    rw [rawSegments]
    unfold outside
    cases depth <;> cases inQuotes <;> simp
  | cons c rest ih =>
    rw [through_cons] at reached
    obtain ⟨next, stepped, later⟩ := Option.bind_eq_some_iff.mp reached
    rw [rawSegments, stepped, ← ih later]
    dsimp only
    cases rawSegments next rest <;> simp

/-- The main result on segments: just the balanced texts have some. -/
theorem exists_segments_iff {text : List Char} :
    (∃ parts, segments text = .ok parts) ↔ Balanced text := by
  have raw_iff : (∃ parts, segments text = .ok parts) ↔
      ∃ raw, rawSegments outside text = .ok raw := by
    unfold segments
    cases rawSegments outside text <;> simp
  rw [raw_iff, balanced_iff_through]
  cases reached : outside.through text with
  | none => simp [rawSegments_of_none reached]
  | some last => rw [rawSegments_of_some reached, Option.some_inj]

/-! ## Parentheses that are closed early -/

/-- A `)` in the text closes a parenthesis that was opened before the text. -/
def ClosesEarly (text : List Char) : Prop :=
  ∃ inner later, text = inner ++ ')' :: later ∧ Balanced inner

theorem closesEarly_iff_through {text : List Char} :
    ClosesEarly text ↔ outside.through text = none := by
  rw [through_eq_none_iff]
  simp only [ClosesEarly, balanced_iff_through]

/-- A text that closes early is not balanced, and has no segments. -/
theorem ClosesEarly.segments_eq {text : List Char} (early : ClosesEarly text) :
    segments text = .error (.parse (.unbalancedClose (String.ofList text))) := by
  unfold segments
  rw [rawSegments_of_none (closesEarly_iff_through.mp early)]
  rfl

/-- Between the parentheses at the ends of a balanced text stands a balanced text, or one that closes
the first of them early. -/
theorem Balanced.or_closesEarly {body : List Char} (balanced : Balanced ('(' :: (body ++ [')']))) :
    Balanced body ∨ ClosesEarly body := by
  rw [balanced_iff_through, closesEarly_iff_through]
  cases reached : outside.through body with
  | none => exact .inr rfl
  | some last =>
    rcases last with ⟨depth, inQuotes⟩
    have inside : (Nesting.mk 1 false).through body = some ⟨depth + 1, inQuotes⟩ :=
      through_deeper reached 1
    have whole := balanced_iff_through.mp balanced
    rw [through_cons] at whole
    change (Nesting.mk 1 false).through (body ++ [')']) = some outside at whole
    rw [through_append, inside] at whole
    cases inQuotes with
    | true => cases whole
    | false =>
      cases whole
      exact .inl rfl

end FluentSql
