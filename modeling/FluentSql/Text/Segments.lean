import FluentSql.Error
import FluentSql.Text.Blank

/-!
# Segments

Lists written with commas, as select lists and filter expressions are. A comma inside parentheses or
between double quotes separates nothing, and a parenthesis between double quotes does not count. The
segments are the trimmed texts between the commas that separate; blank ones are dropped.
-/

namespace FluentSql

/-- How deep in parentheses a position lies, and whether it lies between double quotes. -/
structure Nesting where
  depth : Nat
  inQuotes : Bool
deriving DecidableEq, Repr

namespace Nesting

/-- The nesting at the beginning of a text. -/
def outside : Nesting := ⟨0, false⟩

/-- The nesting after a character; there is none after a `)` that closes nothing. -/
def after (nesting : Nesting) (c : Char) : Option Nesting :=
  if c = '"' then some { nesting with inQuotes := !nesting.inQuotes }
  else if nesting.inQuotes then some nesting
  else if c = '(' then some { nesting with depth := nesting.depth + 1 }
  else if c = ')' then
    match nesting.depth with
    | 0 => none
    | depth + 1 => some { nesting with depth }
  else some nesting

/-- The character is a comma that separates. -/
def separates (nesting : Nesting) (c : Char) : Bool :=
  c == ',' && !nesting.inQuotes && nesting.depth == 0

end Nesting

/-- Why a text has no segments. -/
inductive NestingFault where
  | unbalancedClose
  | unclosedParenthesis
  | unclosedQuote
deriving DecidableEq, Repr

/-- The fault, with the text it was found in. -/
def NestingFault.inText (text : List Char) : NestingFault → ParseFault
  | .unbalancedClose => .unbalancedClose (String.ofList text)
  | .unclosedParenthesis => .unclosedParenthesis (String.ofList text)
  | .unclosedQuote => .unclosedQuote (String.ofList text)

/-- Puts a character in front of the first segment. -/
def consFirst (c : Char) : List (List Char) → List (List Char)
  | [] => [[c]]
  | segment :: rest => (c :: segment) :: rest

/-- The texts between the separating commas, as they stand. -/
def rawSegments (nesting : Nesting) : List Char → Except NestingFault (List (List Char))
  | [] =>
    if nesting.depth ≠ 0 then .error .unclosedParenthesis
    else if nesting.inQuotes then .error .unclosedQuote
    else .ok [[]]
  | c :: rest =>
    match nesting.after c with
    | none => .error .unbalancedClose
    | some next => do
      let segments ← rawSegments next rest
      .ok (if nesting.separates c then [] :: segments else consFirst c segments)

/-- The segments of a text. -/
def segments (text : List Char) : Except Error (List (List Char)) :=
  match rawSegments .outside text with
  | .ok raw => .ok ((raw.map trim).filter (!·.isEmpty))
  | .error fault => .error (.parse (fault.inText text))

theorem length_le_of_mem_consFirst {c : Char} {n : Nat} {raw : List (List Char)}
    (bound : ∀ segment ∈ raw, segment.length ≤ n) :
    ∀ segment ∈ consFirst c raw, segment.length ≤ n + 1 := by
  intro segment present
  cases raw with
  | nil =>
    simp only [consFirst, List.mem_singleton] at present
    subst present
    simp
  | cons first rest =>
    simp only [consFirst, List.mem_cons] at present
    rcases present with rfl | present
    · have := bound first (by simp)
      simp only [List.length_cons]
      omega
    · have := bound segment (by simp [present])
      omega

/-- No raw segment is longer than the text. -/
theorem length_le_of_mem_rawSegments {nesting : Nesting} {text : List Char} {raw : List (List Char)}
    (split : rawSegments nesting text = .ok raw) :
    ∀ segment ∈ raw, segment.length ≤ text.length := by
  induction text generalizing nesting raw with
  | nil =>
    simp only [rawSegments] at split
    split at split
    · cases split
    · split at split
      · cases split
      · cases split
        simp
  | cons c rest ih =>
    simp only [rawSegments] at split
    cases step : nesting.after c with
    | none => simp [step] at split
    | some next =>
      cases tail : rawSegments next rest with
      | error fault => simp [step, tail, bind, Except.bind] at split
      | ok later =>
        have bound := ih tail
        simp only [step, tail, bind, Except.bind, Except.ok.injEq] at split
        subst split
        split
        · intro segment present
          simp only [List.mem_cons] at present
          rcases present with rfl | present
          · simp
          · have := bound segment present
            simp only [List.length_cons]
            omega
        · simpa using length_le_of_mem_consFirst bound

/-- No segment is longer than the text. -/
theorem length_le_of_mem_segments {text : List Char} {parts : List (List Char)}
    (split : segments text = .ok parts) : ∀ part ∈ parts, part.length ≤ text.length := by
  simp only [segments] at split
  cases raw : rawSegments .outside text with
  | error fault => simp [raw] at split
  | ok found =>
    simp only [raw, Except.ok.injEq] at split
    subst split
    intro part present
    simp only [List.mem_filter, List.mem_map] at present
    obtain ⟨⟨segment, present, rfl⟩, _⟩ := present
    exact Nat.le_trans (length_trim_le segment) (length_le_of_mem_rawSegments raw segment present)

end FluentSql
