import FluentSql.Selection.Basic
import FluentSql.Text.Segments

/-!
# Select lists

The text form of selections: columns and embeds, separated by commas. An embed is the name of a
table, `!` and the name of a column where one is given, and a select list in parentheses:
`seller!owner_id(id, tags(*))`.
-/

namespace FluentSql

/-- The parts of an embed as it is written. -/
structure EmbedText where
  table : List Char
  foreignKey : Option (List Char)
  body : List Char
deriving DecidableEq, Repr

/-- The simple name that a text begins with, and what follows it. -/
def takeName? (text : List Char) : Option (List Char × List Char) :=
  let name := text.takeWhile isNameChar
  if isSimpleName name then some (name, text.dropWhile isNameChar) else none

/-- The name after a `!`, where there is one, and what follows it. -/
def takeForeignKey? : List Char → Option (Option (List Char) × List Char)
  | '!' :: rest => (takeName? rest).map fun (name, after) => (some name, after)
  | rest => some (none, rest)

/-- The text between the parenthesis that a text begins with and the one that it ends with. -/
def parenthesised? : List Char → Option (List Char)
  | '(' :: rest => if rest.getLast? = some ')' then some rest.dropLast else none
  | _ => none

/-- Reads a segment as an embed. -/
def EmbedText.ofSegment? (segment : List Char) : Option EmbedText := do
  let (table, rest) ← takeName? segment
  let (foreignKey, rest) ← takeForeignKey? rest
  let body ← parenthesised? (trimLeft rest)
  some ⟨table, foreignKey, body⟩

theorem length_lt_of_parenthesised? {text body : List Char} (h : parenthesised? text = some body) :
    body.length < text.length := by
  unfold parenthesised? at h
  split at h
  · split at h
    · cases h
      simp only [List.length_dropLast, List.length_cons]
      omega
    · cases h
  · cases h

theorem length_le_of_takeName? {text name rest : List Char}
    (h : takeName? text = some (name, rest)) :
    rest.length ≤ text.length := by
  simp only [takeName?] at h
  split at h
  · cases h
    exact (List.dropWhile_suffix isNameChar).length_le
  · cases h

theorem length_le_of_takeForeignKey? {text rest : List Char} {foreignKey : Option (List Char)}
    (h : takeForeignKey? text = some (foreignKey, rest)) : rest.length ≤ text.length := by
  unfold takeForeignKey? at h
  split at h
  · simp only [Option.map_eq_some_iff, Prod.mk.injEq, Prod.exists] at h
    obtain ⟨name, after, taken, _, rfl⟩ := h
    have := length_le_of_takeName? taken
    simp only [List.length_cons]
    omega
  · cases h
    exact Nat.le_refl _

/-- The body of an embed is shorter than its segment. -/
theorem EmbedText.length_body_lt {segment : List Char} {text : EmbedText}
    (h : EmbedText.ofSegment? segment = some text) : text.body.length < segment.length := by
  simp only [EmbedText.ofSegment?, Option.bind_eq_bind, Option.bind_eq_some_iff, Prod.exists,
    Option.some.injEq] at h
  obtain ⟨table, afterName, taken, foreignKey, afterKey, key, body, inner, rfl⟩ := h
  have := length_lt_of_parenthesised? inner
  have := length_trimLeft_le afterKey
  have := length_le_of_takeForeignKey? key
  have := length_le_of_takeName? taken
  simp only
  omega

/-- An entry of a select list. -/
inductive SelectEntry where
  | column (text : String)
  | embed (embed : Embed)
deriving Repr

namespace SelectEntry

/-- The text of a plain column. -/
def column? : SelectEntry → Option String
  | .column text => some text
  | .embed _ => none

/-- The embed. -/
def embed? : SelectEntry → Option Embed
  | .column _ => none
  | .embed found => some found

end SelectEntry

namespace Selection

/-- The selection that a list of entries stands for. -/
def ofEntries (entries : List SelectEntry) : Selection :=
  ⟨entries.filterMap SelectEntry.column?, entries.filterMap SelectEntry.embed?⟩

/-- Reads a select list. A segment that is not an embed is a plain column. -/
def parseText (text : List Char) : Except Error Selection :=
  match split : segments text with
  | .error error => .error error
  | .ok parts => do
    let entries ← parts.attach.mapM fun ⟨part, present⟩ =>
      match read : EmbedText.ofSegment? part with
      | none => .ok (SelectEntry.column (String.ofList part))
      | some embed => do
        have : embed.body.length < text.length :=
          Nat.lt_of_lt_of_le (EmbedText.length_body_lt read)
            (length_le_of_mem_segments split part present)
        let inner ← parseText embed.body
        .ok (SelectEntry.embed
          ⟨String.ofList embed.table, embed.foreignKey.map String.ofList, inner.columns,
            inner.embeds⟩)
    .ok (ofEntries entries)
termination_by text.length

/-- Reads a select list. -/
def parse (text : String) : Except Error Selection := parseText text.toList

end Selection

end FluentSql
