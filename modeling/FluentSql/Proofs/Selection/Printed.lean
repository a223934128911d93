import FluentSql.Proofs.Selection.Parse
import FluentSql.Proofs.Text.Rejoined

/-!
# Printed select lists

A selection is printed as its columns and then its embeds, each with its names and with what it
selects in parentheses. What a list was read as is read again from its print, which therefore loses
no column, no name and no embed, however deep.

Results:
1. `Selection.readable_of_parseText`: what is read has columns that are plain segments, and simple
   names.
2. `Selection.Readable.print_read`: what is of this form is read from its print.
3. `Selection.exists_parse_iff`: so this form is that of all that can be read.
4. `Selection.parse_printed`: what is read from any list is read from its print.
-/

namespace FluentSql

/-! ## Printing -/

mutual

/-- An embed as it is printed: its table, `!` and its foreign key if it names one, and in
parentheses what it selects. -/
def Embed.printed : Embed → List Char
  | ⟨table, foreignKey, columns, embeds⟩ =>
    EmbedText.text ⟨table.toList, foreignKey.map String.toList,
      [',', ' '].intercalate (columns.map String.toList ++ printedAll embeds)⟩

/-- Embeds as they are printed. -/
def Embed.printedAll : List Embed → List (List Char)
  | [] => []
  | embed :: rest => embed.printed :: printedAll rest

end

namespace Selection

/-- The columns of a selection and then its embeds, as they are printed. -/
def parts (selection : Selection) : List (List Char) :=
  selection.columns.map String.toList ++ Embed.printedAll selection.embeds

/-- A selection as it is printed. -/
def printed (selection : Selection) : String :=
  String.ofList ([',', ' '].intercalate selection.parts)

example :
    printed ⟨["id", "\"a, b\""], [⟨"sellers", some "owner_id", ["*"], [⟨"tags", none, [], []⟩]⟩]⟩ =
      "id, \"a, b\", sellers!owner_id(*, tags())" := by
  decide

end Selection

theorem Embed.printedAll_eq (embeds : List Embed) :
    Embed.printedAll embeds = embeds.map Embed.printed := by
  induction embeds with
  | nil => rfl
  | cons embed rest ih => rw [Embed.printedAll, ih, List.map_cons]

/-- The parts of the print of an embed. -/
def Embed.text (embed : Embed) : EmbedText :=
  ⟨embed.table.toList, embed.foreignKey.map String.toList,
    [',', ' '].intercalate embed.selection.parts⟩

theorem Embed.printed_eq (embed : Embed) : embed.printed = embed.text.text := by
  cases embed
  rw [printed]
  rfl

/-! ## What is read -/

/-- A segment that no embed is read from. -/
structure IsColumn (column : String) : Prop where
  segment : IsSegment column.toList
  plain : EmbedText.ofSegment? column.toList = none

/-- The names of an embed are simple, its columns are plain segments, and the embeds in it are such
embeds. -/
inductive Embed.Readable : Embed → Prop
  | intro {table : String} {foreignKey : Option String} {columns : List String}
      {embeds : List Embed} :
      isSimpleName table.toList = true → (∀ key ∈ foreignKey, isSimpleName key.toList = true) →
      (∀ column ∈ columns, IsColumn column) → (∀ embed ∈ embeds, embed.Readable) →
      Embed.Readable ⟨table, foreignKey, columns, embeds⟩

/-- Such columns and such embeds. -/
structure Selection.Readable (selection : Selection) : Prop where
  columns : ∀ column ∈ selection.columns, IsColumn column
  embeds : ∀ embed ∈ selection.embeds, embed.Readable

namespace SelectEntry

theorem plain_of_ofSegment {part : List Char} {column : String}
    (read : ofSegment part = .ok (.column column)) :
    EmbedText.ofSegment? part = none ∧ column = String.ofList part := by
  unfold ofSegment at read
  split at read
  · rename_i plain
    cases read
    exact ⟨plain, rfl⟩
  · obtain ⟨inner, -, same⟩ := map_eq_ok_iff.mp read
    cases same

theorem exists_text_of_ofSegment {part : List Char} {embed : Embed}
    (read : ofSegment part = .ok (.embed embed)) :
    ∃ text inner, EmbedText.ofSegment? part = some text ∧
      Selection.parseText text.body = .ok inner ∧
      embed = ⟨String.ofList text.table, text.foreignKey.map String.ofList, inner.columns,
        inner.embeds⟩ := by
  unfold ofSegment at read
  split at read
  · cases read
  · rename_i text found
    obtain ⟨inner, body, same⟩ := map_eq_ok_iff.mp read
    cases same
    exact ⟨text, inner, found, body, rfl⟩

end SelectEntry

theorem Embed.readable_of_text {text : EmbedText} (simple : text.Simple) {inner : Selection}
    (readable : inner.Readable) :
    Embed.Readable ⟨String.ofList text.table, text.foreignKey.map String.ofList, inner.columns,
      inner.embeds⟩ := by
  refine .intro ?_ ?_ readable.columns readable.embeds
  · rw [String.toList_ofList]
    exact simple.table
  · intro key present
    obtain ⟨name, given, rfl⟩ := Option.map_eq_some_iff.mp present
    rw [String.toList_ofList]
    exact simple.foreignKey name given

/-- Whatever is read is of this form. The induction is on the length of the text, as in the reader. -/
theorem Selection.readable_of_parseText {text : List Char} {selection : Selection}
    (read : parseText text = .ok selection) : selection.Readable := by
  induction length : text.length using Nat.strongRecOn generalizing text selection with
  | ind bound ih =>
    obtain ⟨parts, entries, split, all, rfl⟩ := exists_entries_of_parseText read
    constructor
    · intro column present
      obtain ⟨entry, listed, found⟩ := List.mem_filterMap.mp present
      obtain ⟨part, member, made⟩ := exists_of_mem_mapM all entry listed
      cases entry with
      | embed embed => cases found
      | column text =>
        cases found
        obtain ⟨plain, rfl⟩ := SelectEntry.plain_of_ofSegment made
        refine ⟨?_, ?_⟩ <;> rw [String.toList_ofList]
        · exact isSegment_of_mem_segments split part member
        · exact plain
    · intro embed present
      obtain ⟨entry, listed, found⟩ := List.mem_filterMap.mp present
      obtain ⟨part, member, made⟩ := exists_of_mem_mapM all entry listed
      cases entry with
      | column text => cases found
      | embed embed =>
        cases found
        obtain ⟨text, inner, written, body, rfl⟩ := SelectEntry.exists_text_of_ofSegment made
        have shorter : text.body.length < bound := by
          have inside := EmbedText.length_body_lt written
          have within := length_le_of_mem_segments split part member
          omega
        exact Embed.readable_of_text (EmbedText.simple_of_ofSegment? written)
          (ih text.body.length shorter body rfl)

/-! ## Printed embeds are segments -/

namespace EmbedText

theorem isFlat_of_mem_names {text : EmbedText} (simple : text.Simple) :
    ∀ c ∈ text.names, isFlat c = true := by
  have table : ∀ c ∈ text.table, isFlat c = true :=
    fun c present => isFlat_of_isNameChar (isNameChar_of_isSimpleName simple.table c present)
  unfold names
  split
  · exact table
  · rename_i key given
    refine List.forall_mem_append.mpr ⟨table, List.forall_mem_cons.mpr ⟨by decide, ?_⟩⟩
    exact fun c present =>
      isFlat_of_isNameChar (isNameChar_of_isSimpleName (simple.foreignKey key given) c present)

theorem names_begins {text : EmbedText} (simple : text.Simple) :
    ∃ c rest, text.names = c :: rest ∧ isBlank c = false := by
  obtain ⟨c, rest, begins, named⟩ := exists_of_isSimpleName simple.table
  have solid := isBlank_eq_false_of_isNameChar named
  unfold names
  split
  · exact ⟨c, rest, begins, solid⟩
  · rw [begins]
    exact ⟨c, _, rfl, solid⟩

theorem isSegment_text {text : EmbedText} (simple : text.Simple)
    (closed : Closed ('(' :: (text.body ++ [')']))) : IsSegment text.text where
  closed := (Closed.flat (isFlat_of_mem_names simple)).append closed
  trimmed := by
    obtain ⟨c, rest, begins, solid⟩ := names_begins simple
    refine ⟨⟨c, rest ++ '(' :: (text.body ++ [')']), ?_, solid⟩,
      text.names ++ '(' :: text.body, ')', ?_, by decide⟩
    · rw [EmbedText.text, begins]
      rfl
    · rw [EmbedText.text, List.append_assoc]
      rfl

end EmbedText

/-! ## What is printed is read -/

namespace Selection

theorem ofEntries_append (columns : List String) (embeds : List Embed) :
    ofEntries (columns.map SelectEntry.column ++ embeds.map SelectEntry.embed) =
      ⟨columns, embeds⟩ := by
  have names : columns.filterMap (SelectEntry.column? ∘ SelectEntry.column) = columns :=
    List.filterMap_some
  have others : embeds.filterMap (SelectEntry.embed? ∘ SelectEntry.embed) = embeds :=
    List.filterMap_some
  have none : embeds.filterMap (SelectEntry.column? ∘ SelectEntry.embed) = [] :=
    List.filterMap_eq_nil_iff.mpr fun _ _ => rfl
  have none' : columns.filterMap (SelectEntry.embed? ∘ SelectEntry.column) = [] :=
    List.filterMap_eq_nil_iff.mpr fun _ _ => rfl
  rw [ofEntries, List.filterMap_append, List.filterMap_append, List.filterMap_map,
    List.filterMap_map, List.filterMap_map, List.filterMap_map, names, others, none, none',
    List.append_nil, List.nil_append]

variable {columns : List String} {embeds : List Embed}

theorem isSegment_of_mem_parts (plain : ∀ column ∈ columns, IsColumn column)
    (each : ∀ embed ∈ embeds, IsSegment embed.printed) :
    ∀ part ∈ parts ⟨columns, embeds⟩, IsSegment part := by
  unfold parts
  rw [Embed.printedAll_eq]
  refine List.forall_mem_append.mpr ⟨?_, ?_⟩
  · intro part present
    obtain ⟨column, listed, rfl⟩ := List.mem_map.mp present
    exact (plain column listed).segment
  · intro part present
    obtain ⟨embed, listed, rfl⟩ := List.mem_map.mp present
    exact each embed listed

/-- A print is read if the prints of the embeds are. -/
theorem parseText_parts (plain : ∀ column ∈ columns, IsColumn column)
    (each : ∀ embed ∈ embeds, IsSegment embed.printed)
    (read : ∀ embed ∈ embeds, SelectEntry.ofSegment embed.printed = .ok (.embed embed)) :
    parseText ([',', ' '].intercalate (parts ⟨columns, embeds⟩)) = .ok ⟨columns, embeds⟩ := by
  have all : (parts ⟨columns, embeds⟩).mapM SelectEntry.ofSegment =
      .ok (columns.map SelectEntry.column ++ embeds.map SelectEntry.embed) := by
    unfold parts
    rw [mapM_eq_ok_iff, Embed.printedAll_eq]
    refine List.rel_append ?_ ?_
    · rw [List.forall₂_map_left_iff, List.forall₂_map_right_iff, List.forall₂_same]
      intro column present
      rw [SelectEntry.ofSegment, (plain column present).plain, String.ofList_toList]
    · rw [List.forall₂_map_left_iff, List.forall₂_map_right_iff, List.forall₂_same]
      exact read
  rw [parseText_eq (segments_spaced (isSegment_of_mem_parts plain each)), all, map_ok,
    ofEntries_append]

end Selection

namespace Embed

theorem Readable.text_simple {embed : Embed} (readable : embed.Readable) : embed.text.Simple := by
  cases readable with
  | intro simple keys plain inner =>
    refine ⟨simple, ?_⟩
    intro key present
    obtain ⟨name, given, rfl⟩ := Option.map_eq_some_iff.mp present
    exact keys name given

theorem ofSegment_printed {embed : Embed} (simple : embed.text.Simple)
    (inner : Selection.parseText embed.text.body = .ok embed.selection) :
    SelectEntry.ofSegment embed.printed = .ok (.embed embed) := by
  have same : String.ofList ∘ String.toList = id := funext fun _ => String.ofList_toList
  rw [printed_eq, SelectEntry.ofSegment, EmbedText.ofSegment?_text simple]
  dsimp only
  rw [inner, map_ok, text, String.ofList_toList, Option.map_map, same, Option.map_id]
  cases embed
  rfl

/-- A print of an embed is a segment, and is read as the embed. The induction is on how embeds are
nested. -/
theorem Readable.printed_read {embed : Embed} (readable : embed.Readable) :
    IsSegment embed.printed ∧ SelectEntry.ofSegment embed.printed = .ok (.embed embed) := by
  have simple := readable.text_simple
  induction readable with
  | intro _ _ plain within ih =>
    have each embed present := (ih embed present (within embed present).text_simple).1
    have read embed present := (ih embed present (within embed present).text_simple).2
    have closed := Closed.parenthesised_spaced fun part present =>
      (Selection.isSegment_of_mem_parts plain each part present).closed
    constructor
    · rw [printed_eq]
      exact EmbedText.isSegment_text simple closed
    · exact ofSegment_printed simple (Selection.parseText_parts plain each read)

end Embed

namespace Selection

theorem Readable.print_read {selection : Selection} (readable : selection.Readable) :
    parse selection.printed = .ok selection := by
  rw [parse, printed, String.toList_ofList]
  exact parseText_parts readable.columns
    (fun embed present => (readable.embeds embed present).printed_read.1)
    fun embed present => (readable.embeds embed present).printed_read.2

/-- What can be read at all is what is of this form. -/
theorem exists_parse_iff {selection : Selection} :
    (∃ text, parse text = .ok selection) ↔ selection.Readable :=
  ⟨fun ⟨_, read⟩ => readable_of_parseText read, fun readable => ⟨_, readable.print_read⟩⟩

/-- The main result: what is read from a list is read from its print. -/
theorem parse_printed {text : String} {selection : Selection}
    (read : parse text = .ok selection) : parse selection.printed = .ok selection :=
  (exists_parse_iff.mp ⟨text, read⟩).print_read

end Selection

namespace Sellers

/-- A listing with its seller, and with the tags of this. -/
def listing : Selection :=
  ⟨["id", "\"a, b\""], [⟨"sellers", some "owner_id", ["*"], [⟨"tags", none, [], []⟩]⟩]⟩

/-- The listing has been read. -/
def isListing : Except Error Selection → Bool
  | .ok ⟨["id", "\"a, b\""], [⟨"sellers", some "owner_id", ["*"], [⟨"tags", none, [], []⟩]⟩]⟩ => true
  | _ => false

theorem parse_listing :
    Selection.parse " id,sellers!owner_id ( * ,tags()) , \"a, b\"" = .ok listing := by
  have checked : isListing (Selection.parse " id,sellers!owner_id ( * ,tags()) , \"a, b\"") = true := by
    decide +kernel
  unfold isListing at checked
  split at checked
  · assumption
  · cases checked

theorem listing_printed :
    Selection.parse " id,sellers!owner_id ( * ,tags()) , \"a, b\"" = .ok listing ∧
      Selection.parse listing.printed = .ok listing :=
  ⟨parse_listing, Selection.parse_printed parse_listing⟩

end Sellers

end FluentSql
