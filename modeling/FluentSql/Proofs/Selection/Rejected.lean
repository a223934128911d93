import FluentSql.Proofs.Selection.Printed
import FluentSql.Proofs.Text.Balanced

/-!
# Select lists that are rejected

A segment is taken for an embed when it begins with a name and a parenthesis and ends with a
parenthesis, whether the second closes the first or not. In `lower(a) || upper(b)` it does not, and
what stands between the two is no list. So some balanced lists are rejected, too.

Results:
1. `EmbedText.or_closesEarly`: what is taken for the list of an embed is balanced, or closes the
   first parenthesis early.
2. `Selection.parse_fails_iff`: which lists are rejected, with which error, and what becomes of the
   segments of the others.
-/

namespace FluentSql

open Nesting

/-! ## What is taken for an embed -/

theorem eq_append_of_takeName? {text name rest : List Char}
    (taken : takeName? text = some (name, rest)) : text = name ++ rest := by
  simp only [takeName?] at taken
  split at taken
  · cases taken
    exact List.takeWhile_append_dropWhile.symm
  · cases taken

theorem eq_of_parenthesised? {text body : List Char} (inner : parenthesised? text = some body) :
    text = '(' :: (body ++ [')']) := by
  unfold parenthesised? at inner
  split at inner
  · rename_i rest
    split at inner
    · rename_i ending
      cases inner
      rw [List.dropLast_append_getLast? _ ending]
    · cases inner
  · cases inner

namespace EmbedText

variable {segment : List Char} {embed : EmbedText}

/-- A segment that is taken for an embed: names and blanks, which open and close nothing, and the
body in parentheses. -/
theorem exists_flat_of_ofSegment? (read : ofSegment? segment = some embed) :
    ∃ front, (∀ c ∈ front, isFlat c = true) ∧ segment = front ++ '(' :: (embed.body ++ [')']) := by
  have simple := simple_of_ofSegment? read
  simp only [ofSegment?, Option.bind_eq_bind, Option.bind_eq_some_iff, Prod.exists,
    Option.some.injEq] at read
  obtain ⟨table, afterName, taken, foreignKey, afterKey, key, body, inner, rfl⟩ := read
  have named : ∀ {name : List Char}, isSimpleName name = true → ∀ c ∈ name, isFlat c = true :=
    fun simple c present => isFlat_of_isNameChar (isNameChar_of_isSimpleName simple c present)
  -- What stands between the name of the table and the blanks.
  obtain ⟨written, flat, same⟩ : ∃ written, (∀ c ∈ written, isFlat c = true) ∧
      afterName = written ++ afterKey := by
    unfold takeForeignKey? at key
    split at key
    · obtain ⟨⟨name, after⟩, found, made⟩ := Option.map_eq_some_iff.mp key
      cases made
      refine ⟨'!' :: name, List.forall_mem_cons.mpr ⟨by decide, named (simple.foreignKey name rfl)⟩, ?_⟩
      rw [eq_append_of_takeName? found]
      rfl
    · cases key
      exact ⟨[], List.forall_mem_nil _, rfl⟩
  have blanks : ∀ c ∈ afterKey.takeWhile isBlank, isFlat c = true := fun c present =>
    isFlat_of_isBlank (List.all_eq_true.mp List.all_takeWhile c present)
  refine ⟨table ++ (written ++ afterKey.takeWhile isBlank), ?_, ?_⟩
  · exact List.forall_mem_append.mpr
      ⟨named simple.table, List.forall_mem_append.mpr ⟨flat, blanks⟩⟩
  · rw [eq_append_of_takeName? taken, same, List.append_assoc, List.append_assoc,
      ← eq_of_parenthesised? inner, trimLeft, List.takeWhile_append_dropWhile]

/-- In a segment, what is taken for the list of an embed is balanced, or closes early. -/
theorem or_closesEarly (read : ofSegment? segment = some embed) (closed : Closed segment) :
    Balanced embed.body ∨ ClosesEarly embed.body := by
  obtain ⟨front, flat, rfl⟩ := exists_flat_of_ofSegment? read
  refine Balanced.or_closesEarly (balanced_iff_through.mpr ?_)
  have whole : outside.through (front ++ '(' :: (embed.body ++ [')'])) = some outside :=
    through_of_across (closed 0)
  rwa [through_append, through_flat flat, Option.bind_some] at whole

end EmbedText

/-! ## Lists with a severed body -/

/-- Among the segments of a text, or of the list of an embed in it, is one that is taken for an embed
though its first parenthesis is closed before its last: the body between the two is severed. -/
inductive Severs : List Char → List Char → Prop
  | here {text segment : List Char} {parts : List (List Char)} {embed : EmbedText} :
      segments text = .ok parts → segment ∈ parts → EmbedText.ofSegment? segment = some embed →
      ClosesEarly embed.body → Severs text embed.body
  | inside {text segment body : List Char} {parts : List (List Char)} {embed : EmbedText} :
      segments text = .ok parts → segment ∈ parts → EmbedText.ofSegment? segment = some embed →
      Severs embed.body body → Severs text body

namespace Selection

variable {text segment : List Char} {parts : List (List Char)} {error : Error} {embed : EmbedText}

/-- A list fails where a segment that is taken for an embed has a list that fails. -/
theorem parseText_error_of_body (split : segments text = .ok parts) (present : segment ∈ parts)
    (read : EmbedText.ofSegment? segment = some embed) (fails : parseText embed.body = .error error) :
    ∃ error, parseText text = .error error := by
  rw [parseText_eq split]
  cases all : parts.mapM SelectEntry.ofSegment with
  | error fault => exact ⟨fault, rfl⟩
  | ok entries =>
    obtain ⟨entry, -, made⟩ := exists_of_mem_forall₂ (mapM_eq_ok_iff.mp all) present
    rw [SelectEntry.ofSegment, read] at made
    dsimp only at made
    rw [fails] at made
    cases made

/-- And nowhere else. -/
theorem exists_body_of_parseText_error (split : segments text = .ok parts)
    (fails : parseText text = .error error) :
    ∃ segment ∈ parts, ∃ embed, EmbedText.ofSegment? segment = some embed ∧
      parseText embed.body = .error error := by
  rw [parseText_eq split] at fails
  cases all : parts.mapM SelectEntry.ofSegment with
  | ok entries =>
    rw [all] at fails
    cases fails
  | error fault =>
    rw [all] at fails
    cases fails
    obtain ⟨segment, present, failed⟩ := exists_of_mapM_error all
    unfold SelectEntry.ofSegment at failed
    split at failed
    · cases failed
    · rename_i embed read
      refine ⟨segment, present, embed, read, ?_⟩
      cases inner : parseText embed.body with
      | ok selection =>
        rw [inner] at failed
        cases failed
      | error fault =>
        rw [inner] at failed
        cases failed
        rfl

theorem parseText_of_segments_error (fails : segments text = .error error) :
    parseText text = .error error := by
  unfold parseText
  split
  · rename_i same
    rw [fails] at same
    cases same
    rfl
  · rename_i same
    rw [fails] at same
    cases same

theorem parseText_error_of_severs {body : List Char} (severs : Severs text body) :
    ∃ error, parseText text = .error error := by
  induction severs with
  | here split present read early =>
    exact parseText_error_of_body split present read (parseText_of_segments_error early.segments_eq)
  | inside split present read _ ih =>
    obtain ⟨error, fails⟩ := ih
    exact parseText_error_of_body split present read fails

/-- A balanced list fails only for a body that is severed, and its error is that of this body. The
induction is on the length of the text, as in the reader. -/
theorem severs_of_parseText_error (balanced : Balanced text) (fails : parseText text = .error error) :
    ∃ body, Severs text body ∧ error = .parse (.unbalancedClose (String.ofList body)) := by
  induction length : text.length using Nat.strongRecOn generalizing text with
  | ind bound ih =>
    obtain ⟨parts, split⟩ := exists_segments_iff.mpr balanced
    obtain ⟨segment, present, embed, read, failed⟩ := exists_body_of_parseText_error split fails
    have closed := (isSegment_of_mem_segments split segment present).closed
    rcases EmbedText.or_closesEarly read closed with inner | early
    · have shorter : embed.body.length < bound := by
        have inside := EmbedText.length_body_lt read
        have within := length_le_of_mem_segments split segment present
        omega
      obtain ⟨body, severs, same⟩ := ih embed.body.length shorter inner failed rfl
      exact ⟨body, .inside split present read severs, same⟩
    · rw [parseText_of_segments_error early.segments_eq] at failed
      cases failed
      exact ⟨embed.body, .here split present read early, rfl⟩

/-! ## Lists that are read -/

/-- An embed that was read from its written form. -/
structure ReadFrom (written : EmbedText) (embed : Embed) : Prop where
  table : embed.table = String.ofList written.table
  foreignKey : embed.foreignKey = written.foreignKey.map String.ofList
  selection : parseText written.body = .ok embed.selection

/-- What is not taken for an embed is kept as it stands, and the rest is read, both in order. -/
theorem keeps_segments {entries : List SelectEntry}
    (all : parts.mapM SelectEntry.ofSegment = .ok entries) :
    (ofEntries entries).columns =
        (parts.filter fun part => (EmbedText.ofSegment? part).isNone).map String.ofList ∧
      List.Forall₂ ReadFrom (parts.filterMap EmbedText.ofSegment?) (ofEntries entries).embeds := by
  have pairs := mapM_eq_ok_iff.mp all
  clear all
  induction pairs with
  | nil => exact ⟨rfl, .nil⟩
  | @cons part entry parts entries made _ ih =>
    obtain ⟨columns, embeds⟩ := ih
    cases entry with
    | column text =>
      obtain ⟨plain, rfl⟩ := SelectEntry.plain_of_ofSegment made
      rw [List.filter_cons_of_pos (by rw [plain]; rfl), List.filterMap_cons_none plain]
      exact ⟨congrArg (String.ofList part :: ·) columns, embeds⟩
    | embed embed =>
      obtain ⟨written, inner, read, body, rfl⟩ := SelectEntry.exists_text_of_ofSegment made
      rw [List.filter_cons_of_neg (by rw [read]; exact Bool.false_ne_true),
        List.filterMap_cons_some read]
      exact ⟨columns, .cons ⟨rfl, rfl, body⟩ embeds⟩

/-- The main result. A list is rejected when it is not balanced, which is when it has no segments;
and else just when a body is severed in it, and with the complaint that this body is not balanced.
Of a list that is read, the segments that are not taken for embeds are the columns. -/
theorem parse_fails_iff (text : String) :
    ((∃ error, segments text.toList = .error error) ↔ ¬ Balanced text.toList) ∧
    ((∃ error, parse text = .error error) ↔
      ¬ Balanced text.toList ∨ ∃ body, Severs text.toList body) ∧
    (Balanced text.toList → ∀ error, parse text = .error error →
      ∃ body, Severs text.toList body ∧ error = .parse (.unbalancedClose (String.ofList body))) ∧
    ∀ selection, parse text = .ok selection →
      ∃ parts, segments text.toList = .ok parts ∧
        selection.columns =
          (parts.filter fun part => (EmbedText.ofSegment? part).isNone).map String.ofList ∧
        List.Forall₂ ReadFrom (parts.filterMap EmbedText.ofSegment?) selection.embeds := by
  have cut : (∃ error, segments text.toList = .error error) ↔ ¬ Balanced text.toList := by
    rw [← exists_segments_iff]
    cases segments text.toList <;> simp
  refine ⟨cut, ⟨?_, ?_⟩, fun balanced error fails => severs_of_parseText_error balanced fails, ?_⟩
  · rintro ⟨error, fails⟩
    by_cases balanced : Balanced text.toList
    · obtain ⟨body, severs, -⟩ := severs_of_parseText_error balanced fails
      exact .inr ⟨body, severs⟩
    · exact .inl balanced
  · rintro (unbalanced | ⟨body, severs⟩)
    · obtain ⟨error, fails⟩ := cut.mpr unbalanced
      exact ⟨error, parseText_of_segments_error fails⟩
    · exact parseText_error_of_severs severs
  · intro selection read
    obtain ⟨parts, entries, split, all, rfl⟩ := exists_entries_of_parseText read
    exact ⟨parts, split, keeps_segments all⟩

end Selection

/-! ## People, with their names put together -/

namespace People

/-- A column that two calls make. -/
def fullName : String := "id, lower(first) || upper(last)"

/-- What stands between the first parenthesis and the last. -/
def severed : String := "first) || upper(last"

theorem segments_fullName :
    segments fullName.toList = .ok ["id".toList, "lower(first) || upper(last)".toList] := rfl

theorem parse_fullName : Selection.parse fullName = .error (.parse (.unbalancedClose severed)) := by
  have checked : (match Selection.parse fullName with
      | .error (.parse (.unbalancedClose text)) => text == severed
      | _ => false) = true := by decide +kernel
  split at checked
  · rename_i text failed
    rw [failed, eq_of_beq checked]
  · cases checked

/-- A list with a column that is kept as it stands, and an embed. -/
def keptAndEmbedded : String := "first || last, addresses (city)"

/-- The concatenation has been kept, and the addresses are embedded. -/
def isKeptAndEmbedded : Except Error Selection → Bool
  | .ok ⟨["first || last"], [⟨"addresses", none, ["city"], []⟩]⟩ => true
  | _ => false

theorem parse_keptAndEmbedded :
    Selection.parse keptAndEmbedded =
      .ok ⟨["first || last"], [⟨"addresses", none, ["city"], []⟩]⟩ := by
  have checked : isKeptAndEmbedded (Selection.parse keptAndEmbedded) = true := by decide +kernel
  unfold isKeptAndEmbedded at checked
  split at checked
  · assumption
  · cases checked

theorem severed_or_kept :
    (∃ body, Severs fullName.toList body ∧
      Error.parse (.unbalancedClose severed) = .parse (.unbalancedClose (String.ofList body))) ∧
    ∃ parts, segments keptAndEmbedded.toList = .ok parts ∧
      ["first || last"] =
        (parts.filter fun part => (EmbedText.ofSegment? part).isNone).map String.ofList := by
  have balanced : Balanced fullName.toList := exists_segments_iff.mp ⟨_, segments_fullName⟩
  refine ⟨(Selection.parse_fails_iff fullName).2.2.1 balanced _ parse_fullName, ?_⟩
  obtain ⟨parts, split, columns, -⟩ :=
    (Selection.parse_fails_iff keptAndEmbedded).2.2.2 _ parse_keptAndEmbedded
  exact ⟨parts, split, columns⟩

/-- Though the list is balanced and has segments, it is rejected, for a text that is none of them. -/
theorem balanced_rejected :
    Balanced fullName.toList ∧
      segments fullName.toList = .ok ["id".toList, "lower(first) || upper(last)".toList] ∧
      Selection.parse fullName = .error (.parse (.unbalancedClose severed)) :=
  ⟨exists_segments_iff.mp ⟨_, segments_fullName⟩, segments_fullName, parse_fullName⟩

end People

end FluentSql
