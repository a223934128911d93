import FluentSql.Proofs.Text.Segments

/-!
# Segments that are joined again

The segments of a text lie outside all parentheses and quotes, and no blanks are around them. So they
stay what they are when they are joined again, by commas with a blank after each, and no matter in
how many parentheses.

Results:
1. `isSegment_of_mem_segments`: the segments of a text are segments wherever they stand.
2. `segments_spaced`: the segments of what they make when joined are these segments.
-/

namespace FluentSql

open Nesting

/-! ## Blanks -/

theorem isFlat_of_isBlank {c : Char} (blank : isBlank c = true) : isFlat c = true :=
  isFlat_of_refused (by decide) blank

/-- Blanks leave every nesting as it is. -/
theorem across_blanks {blanks : List Char} (blank : ∀ c ∈ blanks, isBlank c = true)
    (nesting : Nesting) : nesting.across blanks = some nesting := by
  induction blanks with
  | nil => rfl
  | cons c rest ih =>
    rw [across_flat (isFlat_of_isBlank (blank c (by simp)))]
    exact ih fun d present => blank d (List.mem_cons_of_mem c present)

/-- A text without the blanks around it. -/
theorem exists_blanks (text : List Char) :
    ∃ before after, (∀ c ∈ before, isBlank c = true) ∧ (∀ c ∈ after, isBlank c = true) ∧
      trimLeft text = trim text ++ after ∧ text = before ++ (trim text ++ after) := by
  have right : trimLeft text =
      trim text ++ ((trimLeft text).reverse.takeWhile isBlank).reverse := by
    rw [trim, trimRight, ← List.reverse_append, List.takeWhile_append_dropWhile,
      List.reverse_reverse]
  refine ⟨text.takeWhile isBlank, _, ?_, ?_, right, ?_⟩
  · exact List.all_eq_true.mp List.all_takeWhile
  · intro c present
    exact List.all_eq_true.mp List.all_takeWhile c (List.mem_reverse.mp present)
  · rw [← right]
    exact List.takeWhile_append_dropWhile.symm

theorem trimmed_trim {text : List Char} (nonempty : trim text ≠ []) : Trimmed (trim text) := by
  obtain ⟨before, after, -, -, right, -⟩ := exists_blanks text
  constructor
  · obtain ⟨c, rest, begins⟩ := List.exists_cons_of_ne_nil nonempty
    refine ⟨c, rest, begins, ?_⟩
    have first := List.head?_dropWhile_not isBlank text
    rw [show text.dropWhile isBlank = trimLeft text from rfl, right, begins] at first
    exact first
  · -- The last character is the first one of the reversed text that is not blank.
    have kept : trim text = ((trimLeft text).reverse.dropWhile isBlank).reverse := rfl
    have last := List.head?_dropWhile_not isBlank (trimLeft text).reverse
    cases found : (trimLeft text).reverse.dropWhile isBlank with
    | nil =>
      rw [kept, found] at nonempty
      exact absurd rfl nonempty
    | cons c rest =>
      rw [found] at last
      exact ⟨rest.reverse, c, by rw [kept, found, List.reverse_cons], last⟩

theorem trim_blank {c : Char} (blank : isBlank c = true) (text : List Char) :
    trim (c :: text) = trim text := by
  rw [trim, trim, trimLeft, List.dropWhile_cons_of_pos blank]
  rfl

/-! ## Segments are closed -/

namespace Nesting

theorem separates_deeper {depth : Nat} {quoted : Bool} {c : Char}
    (joined : ¬ (Nesting.mk depth quoted).separates c = true) (more : Nat) :
    ¬ (Nesting.mk (depth + more) quoted).separates c = true := by
  simp only [separates, Bool.and_eq_true, beq_iff_eq, not_and] at joined ⊢
  intro cut deep
  exact joined cut (by omega)

theorem after_deeper {depth depth' : Nat} {quoted quoted' : Bool} {c : Char}
    (stepped : (Nesting.mk depth quoted).after c = some ⟨depth', quoted'⟩) (more : Nat) :
    (Nesting.mk (depth + more) quoted).after c = some ⟨depth' + more, quoted'⟩ := by
  unfold after at stepped ⊢
  split_ifs at stepped ⊢
  · cases stepped
    rfl
  · cases stepped
    rfl
  · cases stepped
    simp [Nat.add_right_comm]
  · cases depth with
    | zero => cases stepped
    | succ depth =>
      cases stepped
      simp [Nat.add_right_comm]
  · cases stepped
    rfl

/-- What a text does to a nesting it does inside more parentheses, too. -/
theorem across_deeper {depth depth' : Nat} {quoted quoted' : Bool} {text : List Char}
    (crossed : (Nesting.mk depth quoted).across text = some ⟨depth', quoted'⟩) (more : Nat) :
    (Nesting.mk (depth + more) quoted).across text = some ⟨depth' + more, quoted'⟩ := by
  induction text generalizing depth quoted with
  | nil =>
    cases crossed
    rfl
  | cons c rest ih =>
    rw [across] at crossed ⊢
    split at crossed
    · cases crossed
    · rename_i joined
      obtain ⟨⟨depth, quoted⟩, stepped, later⟩ := Option.bind_eq_some_iff.mp crossed
      rw [if_neg (separates_deeper joined more), after_deeper stepped more]
      exact ih later

end Nesting

theorem Closed.of_outside {text : List Char} (crossed : outside.across text = some outside) :
    Closed text := by
  intro depth
  have deeper := across_deeper crossed depth
  rw [Nat.zero_add] at deeper
  exact deeper

/-- The texts between separating commas begin and end outside, but for the first, which begins where
the whole does. -/
theorem across_of_rawSegments {nesting : Nesting} {text : List Char} {raw : List (List Char)}
    (split : rawSegments nesting text = .ok raw) :
    ∃ first rest, raw = first :: rest ∧ nesting.across first = some outside ∧
      ∀ part ∈ rest, outside.across part = some outside := by
  induction text generalizing nesting raw with
  | nil =>
    obtain ⟨depth, quoted⟩ := nesting
    rw [rawSegments] at split
    split at split
    · cases split
    · rename_i flat
      split at split
      · cases split
      · rename_i unquoted
        cases split
        simp only [ne_eq, not_not] at flat
        simp only [Bool.not_eq_true] at unquoted
        subst flat unquoted
        exact ⟨[], [], rfl, rfl, List.forall_mem_nil _⟩
  | cons c text ih =>
    rw [rawSegments] at split
    split at split
    · cases split
    · rename_i next stepped
      obtain ⟨later, found, same⟩ := bind_eq_ok_iff.mp split
      obtain ⟨first, rest, rfl, crossed, others⟩ := ih found
      split at same
      · rename_i cut
        cases same
        -- A comma separates outside only, and stays there.
        obtain ⟨depth, quoted⟩ := nesting
        simp only [separates, Bool.and_eq_true, beq_iff_eq, Bool.not_eq_true'] at cut
        obtain ⟨⟨rfl, rfl⟩, rfl⟩ := cut
        cases stepped
        refine ⟨[], first :: rest, rfl, rfl, ?_⟩
        intro part present
        rcases List.mem_cons.mp present with rfl | present
        · exact crossed
        · exact others part present
      · rename_i joined
        cases same
        refine ⟨c :: first, rest, rfl, ?_, others⟩
        rw [across, if_neg joined, stepped, Option.bind_some, crossed]

/-- The main result on segments: they are segments wherever they stand. -/
theorem isSegment_of_mem_segments {text : List Char} {parts : List (List Char)}
    (split : segments text = .ok parts) : ∀ part ∈ parts, IsSegment part := by
  unfold segments at split
  split at split
  · rename_i raw found
    cases split
    intro part present
    obtain ⟨listed, nonempty⟩ := List.mem_filter.mp present
    obtain ⟨segment, present, rfl⟩ := List.mem_map.mp listed
    have crossed : outside.across segment = some outside := by
      obtain ⟨first, rest, rfl, head, tail⟩ := across_of_rawSegments found
      rcases List.mem_cons.mp ‹segment ∈ first :: rest› with rfl | present
      · exact head
      · exact tail segment present
    refine ⟨?_, trimmed_trim (by simpa using nonempty)⟩
    obtain ⟨before, after, blank, blank', -, whole⟩ := exists_blanks segment
    rw [whole, across_append, across_blanks blank, Option.bind_some, across_append] at crossed
    obtain ⟨next, inner, ended⟩ := Option.bind_eq_some_iff.mp crossed
    rw [across_blanks blank'] at ended
    cases ended
    exact Closed.of_outside inner
  · cases split

/-! ## Joined segments -/

/-- Texts with a blank before each but the first. -/
def spaced : List (List Char) → List (List Char)
  | [] => []
  | part :: rest => part :: rest.map (' ' :: ·)

theorem intercalate_cons_blank (part : List Char) (rest : List (List Char)) :
    [','].intercalate ((' ' :: part) :: rest) = ' ' :: [','].intercalate (part :: rest) := by
  cases rest with
  | nil => rfl
  | cons next rest =>
    rw [List.intercalate_cons_cons, List.intercalate_cons_cons]
    rfl

theorem intercalate_spaced (parts : List (List Char)) :
    [',', ' '].intercalate parts = [','].intercalate (spaced parts) := by
  cases parts with
  | nil => rfl
  | cons part rest =>
    show _ = [','].intercalate (part :: rest.map (' ' :: ·))
    induction rest generalizing part with
    | nil => rfl
    | cons next rest ih =>
      rw [List.intercalate_cons_cons, ih, List.map_cons, List.intercalate_cons_cons,
        intercalate_cons_blank, List.append_assoc, List.append_assoc]
      rfl

theorem Closed.blank {text : List Char} (closed : Closed text) : Closed (' ' :: text) := by
  intro depth
  rw [across_flat (by decide), closed depth]

theorem closed_of_mem_spaced {parts : List (List Char)} (closed : ∀ part ∈ parts, Closed part) :
    ∀ part ∈ spaced parts, Closed part := by
  cases parts with
  | nil => exact nofun
  | cons first rest =>
    intro part present
    rcases List.mem_cons.mp present with rfl | present
    · exact closed part (by simp)
    · obtain ⟨text, listed, rfl⟩ := List.mem_map.mp present
      exact (closed text (by simp [listed])).blank

theorem map_trim_spaced {parts : List (List Char)} (trimmed : ∀ part ∈ parts, Trimmed part) :
    (spaced parts).map trim = parts := by
  cases parts with
  | nil => rfl
  | cons part rest =>
    have blank : isBlank ' ' = true := by decide
    have others : (rest.map (' ' :: ·)).map trim = rest.map id := by
      rw [List.map_map]
      refine List.map_congr_left fun text listed => ?_
      show trim (' ' :: text) = text
      rw [trim_blank blank, (trimmed text (by simp [listed])).trim_eq]
    rw [spaced, List.map_cons, others, List.map_id, (trimmed part (by simp)).trim_eq]

/-- The main result: segments that are joined by commas, with a blank after each, are found again. -/
theorem segments_spaced {parts : List (List Char)} (each : ∀ part ∈ parts, IsSegment part) :
    segments ([',', ' '].intercalate parts) = .ok parts := by
  have closed := closed_of_mem_spaced fun part present => (each part present).closed
  have trimmed := map_trim_spaced fun part present => (each part present).trimmed
  rw [intercalate_spaced]
  cases parts with
  | nil => rfl
  | cons part rest =>
    rw [spaced] at closed trimmed ⊢
    rw [segments_of_closed closed, trimmed,
      filter_trimmed fun text present => (each text present).trimmed]

/-- In parentheses they are closed. -/
theorem Closed.parenthesised_spaced {parts : List (List Char)}
    (closed : ∀ part ∈ parts, Closed part) :
    Closed ('(' :: ([',', ' '].intercalate parts ++ [')'])) := by
  rw [intercalate_spaced]
  exact Closed.parenthesised (closed_of_mem_spaced closed)

end FluentSql
