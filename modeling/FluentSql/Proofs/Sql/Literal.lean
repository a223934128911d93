import FluentSql.Proofs.Json.Word
import FluentSql.Statement.Binding
import FluentSql.Statement.Literal

/-!
# Reading literals

How the literals in a statement are read. A literal that begins with a quote is text up to the next
quote that is not doubled, and a cast to JSON may follow it; every other literal is a word, which goes
up to a blank, a comma or a closing parenthesis.

Results:
1. `readQuoted_append`: text between quotes ends where it was ended, whatever is in it.
2. `readLiteral_append`: the literal of a value is read to its end, and what is read is the text that
   is sent for the value at a placeholder that is neither of a JSON type nor of an array type.
-/

namespace FluentSql

namespace Sql

/-! ## The reader -/

/-- What a literal denotes: a text, or an SQL null, and whether that is cast to JSON. -/
structure Literal where
  text : Option String
  cast : Bool
deriving DecidableEq, Repr

/-- The characters that can come after a literal. -/
def endsLiteral (c : Char) : Bool := c == ' ' || c == ',' || c == ')'

/-- Nothing comes after a literal, or a character that can. -/
def EndsLiteral (rest : List Char) : Prop := ∀ c ∈ rest.head?, endsLiteral c = true

/-- Reads text after a quote: a doubled quote is a quote, and a quote alone ends the text. -/
def readQuoted : List Char → Option (List Char × List Char)
  | [] => none
  | '\'' :: '\'' :: rest => (readQuoted rest).map fun (text, rest) => ('\'' :: text, rest)
  | '\'' :: rest => some ([], rest)
  | c :: rest => (readQuoted rest).map fun (text, rest) => (c :: text, rest)

/-- The cast to JSON. -/
def castMark : List Char := "::jsonb".toList

/-- Takes a cast to JSON away, if one comes next. -/
def readCast (rest : List Char) : Bool × List Char :=
  if castMark.isPrefixOf rest then (true, rest.drop castMark.length) else (false, rest)

/-- Reads one literal; what comes after it is left. -/
def readLiteral : List Char → Option (Literal × List Char)
  | '\'' :: rest => do
    let (text, rest) ← readQuoted rest
    let (cast, rest) := readCast rest
    some (⟨some (String.ofList text), cast⟩, rest)
  | rest =>
    match rest.takeWhile (!endsLiteral ·) with
    | [] => none
    | word =>
      let text := if isNullWord word then none else some (String.ofList word)
      some (⟨text, false⟩, rest.dropWhile (!endsLiteral ·))

/-! ## Text between quotes -/

variable {rest : List Char}

theorem readQuoted_quote (rest : List Char) (apart : rest.head? ≠ some '\'') :
    readQuoted ('\'' :: rest) = some ([], rest) := by
  cases rest with
  | nil => rfl
  | cons c rest =>
    rw [readQuoted]
    rintro later ⟨⟩
    exact apart rfl

theorem readQuoted_cons {c : Char} (plain : c ≠ '\'') (rest : List Char) :
    readQuoted (c :: rest) = (readQuoted rest).map fun (text, rest) => (c :: text, rest) := by
  rw [readQuoted]
  · rintro later rfl
    exact absurd rfl plain
  · exact plain

/-- Text with its quotes doubled is read back, up to the quote that ends it. -/
theorem readQuoted_append (text : List Char) (apart : rest.head? ≠ some '\'') :
    readQuoted (text.flatMap doubleQuote ++ '\'' :: rest) = some (text, rest) := by
  induction text with
  | nil => exact readQuoted_quote rest apart
  | cons c text ih =>
    rw [List.flatMap_cons, List.append_assoc, doubleQuote]
    split
    · rename_i quote
      rw [quote, List.cons_append, List.cons_append, List.nil_append, readQuoted, ih]
      rfl
    · rename_i plain
      rw [List.cons_append, List.nil_append, readQuoted_cons plain, ih]
      rfl

/-! ## Literals -/

theorem readCast_of_mark (rest : List Char) : readCast (castMark ++ rest) = (true, rest) := by
  have marked : castMark.isPrefixOf (castMark ++ rest) = true :=
    List.isPrefixOf_iff_prefix.mpr (List.prefix_append castMark rest)
  rw [readCast, if_pos marked, List.drop_left]

theorem readCast_of_ended (ended : EndsLiteral rest) : readCast rest = (false, rest) := by
  have unmarked : ¬ castMark.isPrefixOf rest = true := by
    intro marked
    obtain ⟨later, rfl⟩ := List.isPrefixOf_iff_prefix.mp marked
    exact absurd (ended ':' rfl) (by decide)
  rw [readCast, if_neg unmarked]

theorem readLiteral_quoted (text : String) (apart : rest.head? ≠ some '\'') :
    readLiteral ((quotedLiteral text).toList ++ rest) =
      some (⟨some text, (readCast rest).1⟩, (readCast rest).2) := by
  rw [quotedLiteral, String.toList_ofList, List.cons_append, List.append_assoc, List.singleton_append,
    readLiteral, readQuoted_append text.toList apart]
  simp

theorem endsLiteral_of_isWordChar {c : Char} (listed : JsonToken.isWordChar c = true) :
    c ≠ '\'' ∧ endsLiteral c = false := by
  constructor
  · rintro rfl
    exact absurd listed (by decide)
  · cases ends : endsLiteral c with
    | false => rfl
    | true =>
      simp only [endsLiteral, Bool.or_eq_true, beq_iff_eq] at ends
      rcases ends with (rfl | rfl) | rfl <;> exact absurd listed (by decide)

/-- A word is read as a word. -/
theorem readLiteral_word {word : List Char} (ended : EndsLiteral rest) (present : word ≠ [])
    (letters : ∀ c ∈ word, JsonToken.isWordChar c = true) :
    readLiteral (word ++ rest) =
      some (⟨if isNullWord word then none else some (String.ofList word), false⟩, rest) := by
  have inside : ∀ c ∈ word, (!endsLiteral c) = true := by
    intro c listed
    rw [(endsLiteral_of_isWordChar (letters c listed)).2]
    rfl
  have taken : (word ++ rest).takeWhile (!endsLiteral ·) = word := by
    rw [List.takeWhile_append_of_pos inside]
    cases rest with
    | nil => rw [List.takeWhile_nil, List.append_nil]
    | cons c later => rw [List.takeWhile_cons_of_neg (by simp [ended c rfl]), List.append_nil]
  have left : (word ++ rest).dropWhile (!endsLiteral ·) = rest := by
    rw [List.dropWhile_append_of_pos inside]
    cases rest with
    | nil => rfl
    | cons c later => rw [List.dropWhile_cons_of_neg (by simp [ended c rfl])]
  rw [readLiteral, taken, left]
  · cases word with
    | nil => exact absurd rfl present
    | cons c later => rfl
  · -- A word does not begin with a quote.
    intro later same
    cases word with
    | nil => exact present rfl
    | cons c others =>
      obtain ⟨rfl, -⟩ := List.cons.inj same
      exact (endsLiteral_of_isWordChar (letters _ (by simp))).1 rfl

end Sql

namespace Json

open Sql

/-- Arrays and objects, whose literals are cast to JSON. -/
def isComposite : Json → Bool
  | .array _ | .object _ => true
  | _ => false

theorem literal_of_word? {value : Json} {word : String} (found : value.word? = some word) :
    value.literal = word := by
  cases value <;> cases found <;> rfl

/-- What the literal of a value denotes: the text that is sent for the value at a placeholder of a type,
with a cast to JSON for arrays and objects. -/
def denoted (type : SqlType) (value : Json) : Sql.Literal := ⟨value.encode type, value.isComposite⟩

variable {type : SqlType} {rest : List Char}

/-- The literal of a value that is a word. -/
theorem readLiteral_of_word? (plain : type.isJson = false) {value : Json} {word : String}
    (found : value.word? = some word) (ended : EndsLiteral rest) :
    readLiteral (value.literal.toList ++ rest) = some (value.denoted type, rest) := by
  have denotes : value.denoted type =
      ⟨if isNullWord word.toList then none else some word, false⟩ := by
    rw [isNullWord_of_word? found]
    cases value with
    | null => rfl
    | bool | number =>
      cases found
      simp [denoted, encode, plain, text, isComposite, isNull]
    | _ => cases found
  rw [literal_of_word? found, readLiteral_word ended (word_ne_nil found) (isWordChar_of_word? found),
    denotes, String.ofList_toList]

/-- The literal of an array or an object is its JSON text with a cast. -/
theorem readLiteral_of_isComposite (plain : type.isJson = false) (single : type.isArray = false)
    {value : Json} (composite : value.isComposite = true) :
    readLiteral (value.literal.toList ++ rest) = some (value.denoted type, rest) := by
  have written : value.literal = quotedLiteral value.text ++ "::jsonb" ∧
      value.denoted type = ⟨some value.text, true⟩ := by
    cases value with
    | array items => simp [literal, denoted, encode, plain, single, isComposite]
    | object fields => simp [literal, denoted, encode, plain, isComposite]
    | _ => cases composite
  have apart : (castMark ++ rest).head? ≠ some '\'' := nofun
  rw [written.1, written.2, String.toList_append, List.append_assoc]
  change readLiteral ((quotedLiteral value.text).toList ++ (castMark ++ rest)) = _
  rw [readLiteral_quoted value.text apart, readCast_of_mark]

/-- The main result: the literal of a value is read to its end, whatever comes after it, and denotes
the text that is sent for the value. -/
theorem readLiteral_append (plain : type.isJson = false) (single : type.isArray = false)
    (value : Json) (ended : EndsLiteral rest) :
    readLiteral (value.literal.toList ++ rest) = some (value.denoted type, rest) := by
  cases value with
  | null | bool | number => exact readLiteral_of_word? plain rfl ended
  | string text =>
    have apart : rest.head? ≠ some '\'' := fun quote => absurd (ended '\'' quote) (by decide)
    rw [literal, readLiteral_quoted text apart, readCast_of_ended ended]
    simp [denoted, encode, plain, isComposite]
  | array | object => exact readLiteral_of_isComposite plain single rfl

end Json

end FluentSql
