import FluentSql.Proofs.Outcome
import FluentSql.Text.Segments

/-!
# Where texts are cut

A text is cut at the commas that lie outside all parentheses and quotes. What is between them is
found again when every part leads back to the nesting that it began with.

1. `rawSegments_append`: a text without a separating comma stays in one piece with what follows it.
2. `segments_intercalate`: parts that are closed, not blank and trimmed are the segments of the text
   that they make with commas between them.
-/

namespace FluentSql

/-! ## Blanks -/

theorem trimLeft_eq_self {c : Char} {rest : List Char} (solid : isBlank c = false) :
    trimLeft (c :: rest) = c :: rest := by
  simp [trimLeft, solid]

theorem trimRight_eq_self {text : List Char} {c : Char} (solid : isBlank c = false) :
    trimRight (text ++ [c]) = text ++ [c] := by
  simp [trimRight, solid]

/-- A text that begins and ends with characters that are not blank. -/
structure Trimmed (text : List Char) : Prop where
  begins : ∃ c rest, text = c :: rest ∧ isBlank c = false
  ends : ∃ rest c, text = rest ++ [c] ∧ isBlank c = false

theorem Trimmed.trim_eq {text : List Char} (trimmed : Trimmed text) : trim text = text := by
  obtain ⟨c, rest, begins, solid⟩ := trimmed.begins
  obtain ⟨front, last, ends, ending⟩ := trimmed.ends
  have left : trimLeft text = text := by
    rw [begins, trimLeft_eq_self solid]
  rw [trim, left, ends, trimRight_eq_self ending]

theorem Trimmed.isEmpty_eq_false {text : List Char} (trimmed : Trimmed text) :
    text.isEmpty = false := by
  obtain ⟨c, rest, rfl, -⟩ := trimmed.begins
  rfl

/-! ## Nestings -/

namespace Nesting

/-- The nesting after a text that has no comma that separates; `none` when it has one, or when a
parenthesis in it closes nothing. -/
def across (nesting : Nesting) : List Char → Option Nesting
  | [] => some nesting
  | c :: rest => if nesting.separates c then none else (nesting.after c).bind (across · rest)

theorem across_append (nesting : Nesting) (first second : List Char) :
    nesting.across (first ++ second) = (nesting.across first).bind (·.across second) := by
  induction first generalizing nesting with
  | nil => rfl
  | cons c rest ih =>
    rw [List.cons_append, across, across]
    split
    · rfl
    · cases nesting.after c with
      | none => rfl
      | some next => exact ih next

/-- So deep in parentheses, and outside quotes. -/
def atDepth (depth : Nat) : Nesting := ⟨depth, false⟩

@[simp]
theorem across_open (depth : Nat) (rest : List Char) :
    (atDepth depth).across ('(' :: rest) = (atDepth (depth + 1)).across rest := by
  simp [across, separates, after, atDepth]

@[simp]
theorem across_close (depth : Nat) (rest : List Char) :
    (atDepth (depth + 1)).across (')' :: rest) = (atDepth depth).across rest := by
  simp [across, separates, after, atDepth]

/-- A comma inside parentheses separates nothing. -/
@[simp]
theorem across_comma (depth : Nat) (rest : List Char) :
    (atDepth (depth + 1)).across (',' :: rest) = (atDepth (depth + 1)).across rest := by
  simp [across, separates, after, atDepth]

end Nesting

open Nesting

/-- A character that changes no nesting and separates nothing. -/
def isFlat (c : Char) : Bool := c != '"' && c != '(' && c != ')' && c != ','

theorem across_flat {c : Char} (flat : isFlat c = true) (nesting : Nesting) (rest : List Char) :
    nesting.across (c :: rest) = nesting.across rest := by
  simp only [isFlat, Bool.and_eq_true, bne_iff_ne, ne_eq] at flat
  obtain ⟨⟨⟨notQuote, notOpen⟩, notClose⟩, notComma⟩ := flat
  simp [across, separates, after, notQuote, notOpen, notClose, notComma]

/-- No mark that nests or separates is of the kind, so what is of the kind is flat. -/
theorem isFlat_of_refused {kind : Char → Bool}
    (marks : ['"', '(', ')', ','].all (!kind ·) = true) {c : Char} (member : kind c = true) :
    isFlat c = true := by
  have other : c ∉ ['"', '(', ')', ','] := by
    intro mark
    have refused := List.all_eq_true.mp marks c mark
    rw [member] at refused
    cases refused
  simpa [isFlat, not_or, and_assoc] using other

/-- A text that leads back to every depth, and has no separating comma even outside all
parentheses. -/
def Closed (text : List Char) : Prop :=
  ∀ depth, (atDepth depth).across text = some (atDepth depth)

namespace Closed

theorem append {first second : List Char} (one : Closed first) (two : Closed second) :
    Closed (first ++ second) := by
  intro depth
  rw [across_append, one depth, Option.bind_some, two depth]

theorem flat {text : List Char} (flat : ∀ c ∈ text, isFlat c = true) : Closed text := by
  intro depth
  induction text with
  | nil => rfl
  | cons c rest ih =>
    rw [across_flat (flat c (by simp)), ih (fun c present => flat c (by simp [present]))]

theorem point {text : List Char} (closed : Closed text) : Closed ('.' :: text) := by
  intro depth
  rw [across_flat (by decide), closed depth]

/-- A text between double quotes, whatever else it holds. -/
theorem quoted {text : List Char} (plain : '"' ∉ text) : Closed ('"' :: (text ++ ['"'])) := by
  intro depth
  -- Between the quotes every character leaves the nesting as it is.
  have inside : ∀ text : List Char, '"' ∉ text →
      (Nesting.mk depth true).across (text ++ ['"']) = some (atDepth depth) := by
    intro text plain
    induction text with
    | nil => simp [across, separates, after, atDepth]
    | cons c rest ih =>
      rw [List.mem_cons, not_or] at plain
      simp only [List.cons_append, across, separates, after, Ne.symm plain.1, ↓reduceIte]
      simpa using ih plain.2
  simpa [across, separates, after, atDepth] using inside text plain

/-- A list of closed texts in parentheses; its commas are inside. -/
theorem parenthesised {parts : List (List Char)} (closed : ∀ part ∈ parts, Closed part) :
    Closed ('(' :: ([','].intercalate parts ++ [')'])) := by
  intro depth
  have inside : (atDepth (depth + 1)).across ([','].intercalate parts) =
      some (atDepth (depth + 1)) := by
    induction parts with
    | nil => rfl
    | cons part rest ih =>
      have first := closed part (by simp) (depth + 1)
      have others := ih (fun part present => closed part (by simp [present]))
      cases rest with
      | nil => simpa using first
      | cons next rest =>
        rw [List.intercalate_cons_cons, List.append_assoc, across_append, first, Option.bind_some]
        simpa using others
  rw [across_open, across_append, inside, Option.bind_some, across_close]
  rfl

end Closed

/-! ## Segments -/

/-- Puts a text in front of the first segment. -/
def appendFirst (text : List Char) : List (List Char) → List (List Char)
  | [] => [text]
  | segment :: rest => (text ++ segment) :: rest

theorem consFirst_appendFirst (c : Char) (text : List Char) (raw : List (List Char)) :
    consFirst c (appendFirst text raw) = appendFirst (c :: text) raw := by
  cases raw <;> rfl

theorem rawSegments_ne_nil {nesting : Nesting} {text : List Char} {raw : List (List Char)}
    (split : rawSegments nesting text = .ok raw) : raw ≠ [] := by
  rintro rfl
  cases text with
  | nil =>
    rw [rawSegments] at split
    split at split
    · cases split
    · split at split <;> cases split
  | cons c rest =>
    rw [rawSegments] at split
    split at split
    · cases split
    · obtain ⟨later, -, same⟩ := bind_eq_ok_iff.mp split
      split at same
      · cases same
      · cases later <;> cases same

/-- What comes before the next separating comma stays in one piece. -/
theorem rawSegments_append {nesting next : Nesting} {text : List Char}
    (crossed : nesting.across text = some next) (rest : List Char) :
    rawSegments nesting (text ++ rest) = (rawSegments next rest).map (appendFirst text) := by
  induction text generalizing nesting with
  | nil =>
    cases crossed
    rw [List.nil_append]
    cases found : rawSegments next rest with
    | error fault => rfl
    | ok raw =>
      cases raw with
      | nil => exact absurd rfl (rawSegments_ne_nil found)
      | cons segment later => rfl
  | cons c text ih =>
    rw [across] at crossed
    split at crossed
    · cases crossed
    · rename_i joined
      obtain ⟨following, stepped, crossed⟩ := Option.bind_eq_some_iff.mp crossed
      rw [List.cons_append, rawSegments, stepped]
      -- The character does not separate, so it is put in front of the first segment of the rest.
      simp only [ih crossed, joined]
      cases rawSegments next rest with
      | error fault => rfl
      | ok raw => exact congrArg Except.ok (consFirst_appendFirst c text raw)

theorem rawSegments_comma (rest : List Char) :
    rawSegments outside (',' :: rest) = (rawSegments outside rest).map ([] :: ·) := by
  have stays : outside.after ',' = some outside := rfl
  have cut : outside.separates ',' = true := rfl
  rw [rawSegments, stays]
  simp only [cut]
  cases rawSegments outside rest <;> rfl

/-- The parts of a text are found as they were put into it. -/
theorem rawSegments_intercalate {part : List Char} {rest : List (List Char)}
    (closed : ∀ text ∈ part :: rest, Closed text) :
    rawSegments outside ([','].intercalate (part :: rest)) = .ok (part :: rest) := by
  have crossed : outside.across part = some outside := closed part (by simp) 0
  induction rest generalizing part with
  | nil =>
    have found := rawSegments_append crossed []
    rw [List.append_nil] at found
    rw [List.intercalate_singleton, found]
    simp [rawSegments, outside, appendFirst]
  | cons next rest ih =>
    have others : ∀ text ∈ next :: rest, Closed text :=
      fun text present => closed text (by simp [present])
    have later := ih others (others next (by simp) 0)
    rw [List.intercalate_cons_cons, List.append_assoc, rawSegments_append crossed,
      List.singleton_append, rawSegments_comma, later]
    simp [appendFirst]

/-- A text that is a segment wherever it stands between commas. -/
structure IsSegment (text : List Char) : Prop where
  closed : Closed text
  trimmed : Trimmed text

theorem filter_trimmed {parts : List (List Char)} (trimmed : ∀ part ∈ parts, Trimmed part) :
    parts.filter (!·.isEmpty) = parts := by
  rw [List.filter_eq_self]
  intro part present
  rw [(trimmed part present).isEmpty_eq_false, Bool.not_false]

/-- Closed texts with commas between them are taken apart at these. -/
theorem segments_of_closed {part : List Char} {rest : List (List Char)}
    (closed : ∀ text ∈ part :: rest, Closed text) :
    segments ([','].intercalate (part :: rest)) =
      .ok (((part :: rest).map trim).filter (!·.isEmpty)) := by
  rw [segments, rawSegments_intercalate closed]

/-- The main result: texts that are segments are the segments of the list they make. -/
theorem segments_intercalate {parts : List (List Char)} (each : ∀ part ∈ parts, IsSegment part) :
    segments ([','].intercalate parts) = .ok parts := by
  cases parts with
  | nil => rfl
  | cons part rest =>
    have trimmed : (part :: rest).map trim = (part :: rest).map id :=
      List.map_congr_left fun text present => (each text present).trimmed.trim_eq
    rw [segments_of_closed fun text present => (each text present).closed, trimmed, List.map_id,
      filter_trimmed fun text present => (each text present).trimmed]

end FluentSql
