import Mathlib.Data.List.Infix
import FluentSql.Proofs.Text.Balanced

/-!
# What a text is split into

The segments of a text are determined by its parentheses, quotes and commas: a `)` may need a partner,
a parenthesis or a quote may be left open, and a comma separates where no parenthesis and no quote is
open.

Results:
1. `hasStray_iff`, `leavesOpen_iff`: partners by what is open at the place.
2. `not_balanced_iff`: which texts have no segments.
3. `rawSegments_eq_topLevelPieces`: the texts between the commas that separate.
4. `segments_exact`: all that is to be known of segments.
-/

namespace FluentSql

open Nesting

/-! ## Partners -/

/-- What comes after the text comes outside double quotes. -/
def EndsUnquoted (text : List Char) : Prop := Even (text.count '"')

/-- A `)` after the text has a partner in it: an opening parenthesis outside quotes, with a balanced
text between the two. -/
def HasPartner (before : List Char) : Prop :=
  ∃ front inner, before = front ++ '(' :: inner ∧ EndsUnquoted front ∧ Balanced inner

/-- A `)` outside quotes has no partner before it. -/
def HasStray (text : List Char) : Prop :=
  ∃ before after, text = before ++ ')' :: after ∧ EndsUnquoted before ∧ ¬ HasPartner before

/-- A parenthesis that is opened outside quotes is never closed. -/
def LeavesOpen (text : List Char) : Prop :=
  ∃ before after, text = before ++ '(' :: after ∧ EndsUnquoted before ∧ ¬ ClosesEarly after

variable {text before after : List Char} {nesting last : Nesting}

theorem endsUnquoted_iff (reached : outside.through text = some last) :
    EndsUnquoted text ↔ last.inQuotes = false := by
  obtain ⟨depth, inQuotes⟩ := last
  exact (through_eq_some_iff.mp reached).2.2.symm

/-- A balanced text changes nothing, in however many parentheses. -/
theorem through_balanced {inner : List Char} (closed : outside.through inner = some outside)
    (depth : Nat) : (Nesting.mk depth false).through inner = some ⟨depth, false⟩ := by
  have deeper := through_deeper closed depth
  rwa [Nat.zero_add] at deeper

theorem through_open (depth : Nat) (rest : List Char) :
    (Nesting.mk depth false).through ('(' :: rest) = (Nesting.mk (depth + 1) false).through rest := by
  have opened : (Nesting.mk depth false).after '(' = some ⟨depth + 1, false⟩ := rfl
  rw [through_cons, opened, Option.bind_some]

/-- What stands between partners is passed over, and they with it. -/
theorem through_partners {inner : List Char} (closed : outside.through inner = some outside)
    (depth : Nat) (rest : List Char) :
    (Nesting.mk depth false).through ('(' :: (inner ++ ')' :: rest)) =
      (Nesting.mk depth false).through rest := by
  have closes : (Nesting.mk (depth + 1) false).after ')' = some ⟨depth, false⟩ := rfl
  rw [through_open, through_append, through_balanced closed, Option.bind_some, through_cons, closes,
    Option.bind_some]

/-- A parenthesis outside quotes is opened at the depth that was reached before it. -/
theorem exists_depth_of_open (unquoted : EndsUnquoted before)
    (reached : outside.through (before ++ '(' :: after) = some last) :
    ∃ depth, outside.through before = some ⟨depth, false⟩ ∧
      (Nesting.mk (depth + 1) false).through after = some last := by
  rw [through_append] at reached
  obtain ⟨⟨depth, inQuotes⟩, front, later⟩ := Option.bind_eq_some_iff.mp reached
  obtain rfl : inQuotes = false := (endsUnquoted_iff front).mp unquoted
  rw [through_open] at later
  exact ⟨depth, front, later⟩

/-- Only an opening parenthesis outside quotes leads deeper. -/
theorem opens_of_after {depth depth' : Nat} {inQuotes inQuotes' : Bool} {c : Char}
    (stepped : (Nesting.mk depth inQuotes).after c = some ⟨depth', inQuotes'⟩)
    (deeper : depth < depth') :
    c = '(' ∧ inQuotes = false ∧ depth' = depth + 1 ∧ inQuotes' = false := by
  have same : depth' ≠ depth := by omega
  unfold Nesting.after at stepped
  split_ifs at stepped with quote quoted opens closes
  · cases stepped
    exact absurd rfl same
  · cases stepped
    exact absurd rfl same
  · cases stepped
    have unquoted : inQuotes = false := by simpa using quoted
    exact ⟨opens, unquoted, rfl, unquoted⟩
  · cases depth with
    | zero => cases stepped
    | succ depth =>
      cases stepped
      omega
  · cases stepped
    exact absurd rfl same

/-- A parenthesis that is open after a text, but was not before it, was opened in the text, and what
comes after it there closes nothing that was open before. -/
theorem exists_opening {start depth : Nat} {quoted inQuotes : Bool} (low : start ≤ depth)
    (reached : (Nesting.mk start quoted).through text = some ⟨depth + 1, inQuotes⟩) :
    ∃ front inner, text = front ++ '(' :: inner ∧
      (Nesting.mk start quoted).through front = some ⟨depth, false⟩ ∧
      outside.through inner = some ⟨0, inQuotes⟩ := by
  induction size : text.length using Nat.strongRecOn generalizing text start quoted with
  | ind size ih =>
    cases text with
    | nil =>
      cases reached
      omega
    | cons c rest =>
      rw [List.length_cons] at size
      obtain ⟨⟨next, quoted'⟩, stepped, later⟩ :=
        Option.bind_eq_some_iff.mp ((through_cons _ c rest).symm.trans reached)
      rcases Nat.lt_or_ge depth next with deeper | within
      · obtain ⟨rfl, rfl, rfl, rfl⟩ := opens_of_after stepped (Nat.lt_of_le_of_lt low deeper)
        obtain rfl : start = depth := by omega
        cases inside : outside.through rest with
        | some last =>
          -- The parenthesis stays open, so what comes after it stands by itself.
          obtain ⟨left, inQuotes'⟩ := last
          have whole := through_deeper inside (start + 1)
          rw [Nat.zero_add, later] at whole
          obtain ⟨depths, rfl⟩ := Nesting.mk.inj (Option.some.inj whole)
          obtain rfl : left = 0 := by omega
          exact ⟨[], rest, rfl, rfl, inside⟩
        | none =>
          -- It is closed, and another one is opened after its partner.
          obtain ⟨inner, after, rfl, closed⟩ := through_eq_none_iff.mp inside
          rw [through_partners closed] at reached
          rw [List.length_append, List.length_cons] at size
          obtain ⟨front, inner', rfl, back, open'⟩ :=
            ih after.length (by omega) (Nat.le_refl start) reached rfl
          refine ⟨'(' :: (inner ++ ')' :: front), inner', by simp, ?_, open'⟩
          rw [through_partners closed]
          exact back
      · obtain ⟨front, inner, rfl, back, closed⟩ := ih rest.length (by omega) within later rfl
        refine ⟨c :: front, inner, rfl, ?_, closed⟩
        rw [through_cons, stepped]
        exact back

/-- The `)` after a text has a partner just when a parenthesis is open there. -/
theorem hasPartner_iff {depth : Nat} (reached : outside.through before = some ⟨depth, false⟩) :
    HasPartner before ↔ 0 < depth := by
  constructor
  · rintro ⟨front, inner, rfl, unquoted, balanced⟩
    obtain ⟨d, -, later⟩ := exists_depth_of_open unquoted reached
    rw [through_balanced (balanced_iff_through.mp balanced)] at later
    cases later
    exact Nat.succ_pos d
  · intro positive
    obtain ⟨depth, rfl⟩ := Nat.exists_eq_add_of_lt positive
    rw [Nat.zero_add] at reached
    obtain ⟨front, inner, rfl, opens, closed⟩ := exists_opening (Nat.zero_le depth) reached
    exact ⟨front, inner, rfl, (endsUnquoted_iff opens).mpr rfl, balanced_iff_through.mpr closed⟩

/-- A `)` is without a partner just when it closes nothing. -/
theorem hasStray_iff : HasStray text ↔ outside.through text = none := by
  constructor
  · rintro ⟨before, after, rfl, unquoted, alone⟩
    rw [through_append]
    cases reached : outside.through before with
    | none => rfl
    | some last =>
      obtain ⟨depth, inQuotes⟩ := last
      obtain rfl : inQuotes = false := (endsUnquoted_iff reached).mp unquoted
      obtain rfl : depth = 0 := by
        rw [hasPartner_iff reached] at alone
        omega
      rfl
  · intro fails
    obtain ⟨inner, after, rfl, closed⟩ := through_eq_none_iff.mp fails
    refine ⟨inner, after, rfl, (endsUnquoted_iff closed).mpr rfl, ?_⟩
    rw [hasPartner_iff closed]
    exact Nat.lt_irrefl 0

/-- A parenthesis is left open just when the depth at the end is not zero. -/
theorem leavesOpen_iff (reached : outside.through text = some last) :
    LeavesOpen text ↔ 0 < last.depth := by
  obtain ⟨depth, inQuotes⟩ := last
  constructor
  · rintro ⟨before, after, rfl, unquoted, never⟩
    obtain ⟨d, -, later⟩ := exists_depth_of_open unquoted reached
    rw [closesEarly_iff_through] at never
    obtain ⟨⟨rest, quoted⟩, inside⟩ := Option.ne_none_iff_exists'.mp never
    have whole := through_deeper inside (d + 1)
    rw [Nat.zero_add, later] at whole
    cases whole
    exact Nat.lt_of_lt_of_le (Nat.succ_pos d) (Nat.le_add_left (d + 1) rest)
  · intro positive
    obtain ⟨depth, rfl⟩ := Nat.exists_eq_add_of_lt positive
    rw [Nat.zero_add] at reached
    obtain ⟨front, inner, rfl, opens, inside⟩ := exists_opening (Nat.zero_le depth) reached
    refine ⟨front, inner, rfl, (endsUnquoted_iff opens).mpr rfl, ?_⟩
    rw [closesEarly_iff_through, inside]
    exact Option.some_ne_none _

/-- A text is not balanced just when a `)` in it has no partner, or a parenthesis or a quote is open at
its end. -/
theorem not_balanced_iff :
    ¬ Balanced text ↔ HasStray text ∨ LeavesOpen text ∨ ¬ EndsUnquoted text := by
  rw [balanced_iff_through, hasStray_iff]
  cases reached : outside.through text with
  | none => simp
  | some last =>
    rw [leavesOpen_iff reached, endsUnquoted_iff reached]
    obtain ⟨depth, inQuotes⟩ := last
    simp only [outside, Option.some.injEq, Nesting.mk.injEq, reduceCtorEq, false_or, not_and,
      Bool.not_eq_false, Nat.pos_iff_ne_zero]
    exact imp_iff_not_or

/-! ## The texts between separating commas -/

/-- What comes after the text comes outside all parentheses and quotes. -/
def EndsAtTop (text : List Char) : Prop :=
  openings false text = closings false text ∧ EndsUnquoted text

instance : DecidablePred EndsUnquoted := fun text => inferInstanceAs (Decidable (Even (text.count '"')))

instance : DecidablePred EndsAtTop := fun text =>
  inferInstanceAs (Decidable (openings false text = closings false text ∧ EndsUnquoted text))

/-- A character, which comes after a text, is a comma that separates. -/
def isCut (place : Char × List Char) : Bool := place.1 = ',' ∧ EndsAtTop place.2

/-- The texts between the commas that lie outside all parentheses and quotes. -/
def topLevelPieces (text : List Char) : List (List Char) :=
  ((text.zip text.inits).splitOnP isCut).map (·.map Prod.fst)

theorem endsAtTop_iff (reached : outside.through text = some last) :
    EndsAtTop text ↔ last = outside := by
  rw [EndsAtTop, endsUnquoted_iff reached]
  obtain ⟨depth, inQuotes⟩ := last
  have settled := (through_eq_some_iff.mp reached).2.1
  rw [outside, Nesting.mk.injEq]
  refine and_congr_left fun _ => ?_
  omega

theorem isCut_eq {c : Char} (reached : outside.through before = some nesting) :
    isCut (c, before) = nesting.separates c := by
  rw [Bool.eq_iff_iff, isCut, decide_eq_true_eq, endsAtTop_iff reached]
  obtain ⟨depth, inQuotes⟩ := nesting
  simp only [Nesting.separates, outside, Nesting.mk.injEq, Bool.and_eq_true, beq_iff_eq,
    Bool.not_eq_true']
  tauto

/-- A list that is cut, with its first piece one longer. -/
theorem map_modifyHead (place : Char × List Char) {pieces : List (List (Char × List Char))}
    (present : pieces ≠ []) :
    (pieces.modifyHead (place :: ·)).map (·.map Prod.fst) =
      consFirst place.1 (pieces.map (·.map Prod.fst)) := by
  cases pieces with
  | nil => exact absurd rfl present
  | cons piece rest => rfl

/-- The rest of a text is cut where the text is. -/
theorem rawSegments_eq_pieces {raw : List (List Char)}
    (reached : outside.through before = some nesting)
    (split : rawSegments nesting after = .ok raw) :
    raw = ((after.zip (after.inits.map (before ++ ·))).splitOnP isCut).map (·.map Prod.fst) := by
  induction after generalizing before nesting raw with
  | nil =>
    rw [rawSegments] at split
    split_ifs at split
    cases split
    rfl
  | cons c rest ih =>
    rw [rawSegments] at split
    split at split
    · cases split
    · rename_i next stepped
      obtain ⟨later, found, same⟩ := bind_eq_ok_iff.mp split
      have beyond : outside.through (before ++ [c]) = some next := by
        rw [through_append, reached, Option.bind_some, through_cons, stepped]
        rfl
      have places : (c :: rest).zip ((c :: rest).inits.map (before ++ ·)) =
          (c, before) :: rest.zip (rest.inits.map ((before ++ [c]) ++ ·)) := by
        simp [Function.comp_def]
      rw [places, List.splitOnP_cons_eq_if_modifyHead, isCut_eq reached]
      cases same
      split
      · rw [List.map_cons, ← ih beyond found]
        rfl
      · rw [map_modifyHead _ (List.splitOnP_ne_nil _ _), ← ih beyond found]

theorem rawSegments_eq_topLevelPieces {raw : List (List Char)}
    (split : rawSegments outside text = .ok raw) : raw = topLevelPieces text := by
  have start : outside.through [] = some outside := rfl
  have pieces := rawSegments_eq_pieces start split
  simpa [topLevelPieces] using pieces

/-! ## Segments -/

/-- The main result: a text has no segments just when one of its parentheses has no partner or one of
its quotes is left open. Else they are what is not blank between the commas at top level, without the
blanks around it, and each of them, and what they make with commas between them, has just them for
segments. -/
theorem segments_exact (text : List Char) :
    ((∃ error, segments text = .error error) ↔
      HasStray text ∨ LeavesOpen text ∨ ¬ EndsUnquoted text) ∧
    ∀ parts, segments text = .ok parts →
      parts = ((topLevelPieces text).map trim).filter (!·.isEmpty) ∧
      (∀ part ∈ parts, segments part = .ok [part]) ∧
      segments ([','].intercalate parts) = .ok parts ∧
      segments ([',', ' '].intercalate parts) = .ok parts := by
  constructor
  · rw [← not_balanced_iff, ← exists_segments_iff]
    cases segments text <;> simp
  · intro parts split
    have each := isSegment_of_mem_segments split
    refine ⟨?_, fun part present => ?_, segments_intercalate each, segments_spaced each⟩
    · rw [segments] at split
      split at split
      · rename_i raw found
        cases split
        rw [rawSegments_eq_topLevelPieces found]
      · cases split
    · have alone : ∀ text ∈ [part], IsSegment text := by simpa using each part present
      have found := segments_intercalate alone
      rwa [List.intercalate_singleton] at found

namespace Baskets

/-- A list with a comma between quotes, one in parentheses, a parenthesis between quotes, and two commas
after which nothing comes. -/
def basket : List Char := " apples , \"plums, ripe\", sum(n, (m)) || \")\",, ".toList

def goods : List (List Char) :=
  ["apples".toList, "\"plums, ripe\"".toList, "sum(n, (m)) || \")\"".toList]

theorem basket_split :
    segments basket = .ok goods ∧
      goods = ((topLevelPieces basket).map trim).filter (!·.isEmpty) ∧
      (∀ part ∈ goods, segments part = .ok [part]) ∧
      segments ([','].intercalate goods) = .ok goods ∧
      segments ([',', ' '].intercalate goods) = .ok goods :=
  have split : segments basket = .ok goods := by rfl
  ⟨split, (segments_exact basket).2 goods split⟩

end Baskets

end FluentSql
