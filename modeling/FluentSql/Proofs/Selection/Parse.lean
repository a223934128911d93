import FluentSql.Proofs.Statement.Identifier
import FluentSql.Proofs.Text.Segments
import FluentSql.Selection.Parse

/-!
# Reading select lists

How a select list is taken apart: an embed at the end of its names and at its parentheses, and the
list segment by segment.

1. `EmbedText.ofSegment?_text`, `EmbedText.text_simple`: an embed is found as it is written, and its
   names are simple.
2. `Selection.parseText_eq`: a list is read segment by segment.
-/

namespace FluentSql

/-! ## Names -/

theorem isFlat_of_isNameChar {c : Char} (named : isNameChar c = true) : isFlat c = true :=
  isFlat_of_refused (by decide) named

theorem isBlank_eq_false_of_isNameChar {c : Char} (named : isNameChar c = true) :
    isBlank c = false := by
  have low : ∀ code ∈ blankCodes, isNameChar (Char.ofNat code) = false := by decide
  cases blank : isBlank c with
  | false => rfl
  | true =>
    have refused := low c.toNat (List.contains_iff_mem.mp blank)
    rw [Char.ofNat_toNat, named] at refused
    cases refused

/-- A name is taken up to the first character that cannot be in one. -/
theorem takeName?_append {name : List Char} (simple : isSimpleName name = true) {c : Char}
    (other : isNameChar c = false) (rest : List Char) :
    takeName? (name ++ c :: rest) = some (name, c :: rest) := by
  have named := isNameChar_of_isSimpleName simple
  have taken : (name ++ c :: rest).takeWhile isNameChar = name := by
    rw [List.takeWhile_append_of_pos named, List.takeWhile_cons_of_neg (by simp [other]),
      List.append_nil]
  have left : (name ++ c :: rest).dropWhile isNameChar = c :: rest := by
    rw [List.dropWhile_append_of_pos named, List.dropWhile_cons_of_neg (by simp [other])]
  unfold takeName?
  rw [taken, left]
  exact if_pos simple

theorem simple_of_takeName? {text name rest : List Char}
    (taken : takeName? text = some (name, rest)) : isSimpleName name = true := by
  simp only [takeName?] at taken
  split at taken
  · rename_i simple
    cases taken
    exact simple
  · cases taken

theorem parenthesised?_eq (body : List Char) :
    parenthesised? ('(' :: (body ++ [')'])) = some body := by
  simp [parenthesised?]

/-! ## Embeds -/

namespace EmbedText

/-- Its names are simple. -/
structure Simple (text : EmbedText) : Prop where
  table : isSimpleName text.table = true
  foreignKey : ∀ key ∈ text.foreignKey, isSimpleName key = true

/-- What stands before the parentheses. -/
def names (text : EmbedText) : List Char :=
  match text.foreignKey with
  | none => text.table
  | some key => text.table ++ '!' :: key

/-- An embed as it is written, without blanks. -/
def text (embed : EmbedText) : List Char := embed.names ++ '(' :: (embed.body ++ [')'])

theorem ofSegment?_text {embed : EmbedText} (simple : embed.Simple) :
    ofSegment? embed.text = some embed := by
  have solid : isBlank '(' = false := by decide
  obtain ⟨table, foreignKey, body⟩ := embed
  unfold ofSegment? text names
  cases foreignKey with
  | none =>
    rw [takeName?_append simple.table (by decide)]
    show (parenthesised? (trimLeft ('(' :: (body ++ [')'])))).bind _ = _
    rw [trimLeft_eq_self solid, parenthesised?_eq]
    rfl
  | some key =>
    dsimp only
    rw [List.append_assoc, List.cons_append, takeName?_append simple.table (by decide)]
    show ((takeName? (key ++ '(' :: (body ++ [')']))).map _).bind _ = _
    rw [takeName?_append (simple.foreignKey key rfl) (by decide)]
    show (parenthesised? (trimLeft ('(' :: (body ++ [')'])))).bind _ = _
    rw [trimLeft_eq_self solid, parenthesised?_eq]
    rfl

theorem simple_of_takeForeignKey? {text rest : List Char} {foreignKey : Option (List Char)}
    (taken : takeForeignKey? text = some (foreignKey, rest)) :
    ∀ key ∈ foreignKey, isSimpleName key = true := by
  unfold takeForeignKey? at taken
  split at taken
  · obtain ⟨⟨name, after⟩, found, same⟩ := Option.map_eq_some_iff.mp taken
    cases same
    intro key present
    cases present
    exact simple_of_takeName? found
  · cases taken
    exact nofun

theorem simple_of_ofSegment? {segment : List Char} {embed : EmbedText}
    (read : ofSegment? segment = some embed) : embed.Simple := by
  simp only [ofSegment?, Option.bind_eq_bind, Option.bind_eq_some_iff, Prod.exists,
    Option.some.injEq] at read
  obtain ⟨table, afterName, taken, foreignKey, afterKey, key, body, inner, rfl⟩ := read
  exact ⟨simple_of_takeName? taken, simple_of_takeForeignKey? key⟩

end EmbedText

/-! ## Lists -/

/-- Reads one segment: an embed, or a plain column. -/
def SelectEntry.ofSegment (part : List Char) : Except Error SelectEntry :=
  match EmbedText.ofSegment? part with
  | none => .ok (.column (String.ofList part))
  | some text =>
    (Selection.parseText text.body).map fun inner =>
      .embed ⟨String.ofList text.table, text.foreignKey.map String.ofList, inner.columns,
        inner.embeds⟩

namespace Selection

/-- A list is read segment by segment. -/
theorem parseText_eq {text : List Char} {parts : List (List Char)}
    (split : segments text = .ok parts) :
    parseText text = (parts.mapM SelectEntry.ofSegment).map ofEntries := by
  unfold parseText
  split
  · rename_i same
    rw [split] at same
    cases same
  · rename_i found same
    rw [split] at same
    cases same
    -- The definition keeps with every segment that it is one of the text; that is not needed here.
    rw [mapM_attach SelectEntry.ofSegment]
    · cases parts.mapM SelectEntry.ofSegment <;> rfl
    · intro part present
      simp only [SelectEntry.ofSegment]
      split <;> rename_i read <;> simp only [read]
      cases parseText _ <;> rfl

/-- A text that is read has segments, each of which is read. -/
theorem exists_entries_of_parseText {text : List Char} {selection : Selection}
    (read : parseText text = .ok selection) :
    ∃ parts entries, segments text = .ok parts ∧
      parts.mapM SelectEntry.ofSegment = .ok entries ∧ selection = ofEntries entries := by
  cases split : segments text with
  | error error =>
    unfold parseText at read
    split at read
    · cases read
    · rename_i found
      rw [split] at found
      cases found
  | ok parts =>
    rw [parseText_eq split] at read
    obtain ⟨entries, all, same⟩ := map_eq_ok_iff.mp read
    exact ⟨parts, entries, rfl, all, same.symm⟩

end Selection

end FluentSql
