import FluentSql.Proofs.Json.Word
import FluentSql.Statement.Binding

/-!
# Reading array literals

How a server reads an array literal: braces nest, commas separate, an element in double quotes ends at
the next quote that is not escaped, a backslash takes the next character as it is, and the word for
nulls is an SQL null unless it is quoted or escaped. A text is first cut into tokens, and the tokens are
then put into arrays; nothing may be left over, and no element may be missing. Blanks outside quotes do
not occur in what is sent, and are refused.

Results:
1. `ArrayToken.scan_arrayElement`: an element has its tokens, whatever can come after it.
2. `ArrayReader.run_tokens`: the tokens of an item add the item to the array that is being read.
3. `Json.readArray_encode`: an array that is sent as an array is read as the same tree.
-/

namespace FluentSql

/-! ## What an array literal denotes -/

/-- An element of an array: a text or an SQL null, or an array. -/
inductive ArrayItem where
  | value (text : Option String)
  | array (items : List ArrayItem)
deriving Repr

namespace Json

mutual

/-- The element that a value stands for in an array: a string for its text, an object for its JSON
text, and an array for an array. -/
def arrayItem : Json → ArrayItem
  | .null => .value none
  | .string text => .value (some text)
  | .array items => .array (arrayItems items)
  | value => .value (some value.text)

/-- The elements that values stand for. -/
def arrayItems : List Json → List ArrayItem
  | [] => []
  | item :: rest => item.arrayItem :: arrayItems rest

end

end Json

/-! ## Tokens -/

/-- A token of an array literal. -/
inductive ArrayToken where
  | opening
  | closing
  | comma
  | value (text : Option String)
deriving DecidableEq, Repr

mutual

/-- The tokens of an element. -/
def ArrayItem.tokens : ArrayItem → List ArrayToken
  | .value text => [.value text]
  | .array items => .opening :: (itemsTokens items ++ [.closing])

/-- The tokens of elements, separated by commas. -/
def itemsTokens : List ArrayItem → List ArrayToken
  | [] => []
  | [item] => item.tokens
  | item :: rest => item.tokens ++ .comma :: itemsTokens rest

end

namespace ArrayToken

/-- The token of a mark. -/
def ofMark? : Char → Option ArrayToken
  | '\x7b' => some .opening
  | '\x7d' => some .closing
  | ',' => some .comma
  | _ => none

/-- The token of a word. A word with an escaped character is not the word for nulls. -/
def ofWord (word : List Char) (escaped : Bool) : ArrayToken :=
  .value (if isNullWord word && !escaped then none else some (String.ofList word))

/-- Where the scanner stands. -/
inductive Mode where
  | between
  /-- In a word, of which some characters may have been escaped. -/
  | word (read : List Char) (escaped : Bool)
  | quoted (read : List Char)
  /-- Behind a backslash, inside of quotes or outside. -/
  | escape (inside : Bool) (read : List Char)

/-- The tokens of a text. -/
def scan : Mode → List Char → Option (List ArrayToken)
  | .between, [] => some []
  | .word read escaped, [] => some [ofWord read escaped]
  | .quoted _, [] => none
  | .escape _ _, [] => none
  | .between, c :: rest =>
    match ofMark? c with
    | some mark => (scan .between rest).map (mark :: ·)
    | none =>
      if c = '"' then scan (.quoted []) rest
      else if c = '\\' then scan (.escape false []) rest
      else if c.isWhitespace then none
      else scan (.word [c] false) rest
  | .word read escaped, c :: rest =>
    match ofMark? c with
    | some mark => (scan .between rest).map (ofWord read escaped :: mark :: ·)
    | none =>
      if c = '\\' then scan (.escape false read) rest
      else if c = '"' ∨ c.isWhitespace then none
      else scan (.word (read ++ [c]) escaped) rest
  | .quoted read, c :: rest =>
    if c = '"' then (scan .between rest).map (.value (some (String.ofList read)) :: ·)
    else if c = '\\' then scan (.escape true read) rest
    else scan (.quoted (read ++ [c])) rest
  | .escape true read, c :: rest => scan (.quoted (read ++ [c])) rest
  | .escape false read, c :: rest => scan (.word (read ++ [c]) true) rest

end ArrayToken

/-! ## The reader -/

/-- What may come next in an array that is being read. -/
inductive Awaited where
  /-- The first element, or the end. -/
  | first
  /-- An element, after a comma. -/
  | item
  /-- A comma, or the end. -/
  | comma
deriving DecidableEq

/-- How far a literal has been read. -/
inductive ArrayReader where
  | start
  /-- In an array of which these items have been read; the arrays around it wait, the innermost
  first. -/
  | inside (outer : List (List ArrayItem)) (items : List ArrayItem) (next : Awaited)
  | finished (items : List ArrayItem)

namespace ArrayReader

/-- Ends an array. -/
def close (outer : List (List ArrayItem)) (items : List ArrayItem) : ArrayReader :=
  match outer with
  | [] => .finished items
  | before :: outer => .inside outer (before ++ [.array items]) .comma

/-- Reads one token. -/
def step : ArrayReader → ArrayToken → Option ArrayReader
  | .start, .opening => some (.inside [] [] .first)
  | .inside outer items next, .value text =>
    if next = .comma then none else some (.inside outer (items ++ [.value text]) .comma)
  | .inside outer items next, .opening =>
    if next = .comma then none else some (.inside (items :: outer) [] .first)
  | .inside outer items next, .comma =>
    if next = .comma then some (.inside outer items .item) else none
  | .inside outer items next, .closing => if next = .item then none else some (close outer items)
  | _, _ => none

/-- Reads tokens. -/
def run (reader : ArrayReader) (tokens : List ArrayToken) : Option ArrayReader :=
  tokens.foldlM step reader

/-- The items of a literal that has been read to its end. -/
def items? : ArrayReader → Option (List ArrayItem)
  | .finished items => some items
  | _ => none

end ArrayReader

/-- The items of an array literal, all of which must be read. -/
def readArray? (text : String) : Option (List ArrayItem) := do
  let tokens ← ArrayToken.scan .between text.toList
  let reader ← ArrayReader.start.run tokens
  reader.items?

/-! ## Elements have their tokens -/

namespace ArrayToken

/-- Nothing comes after an element, or a mark. -/
def EndsItem (rest : List Char) : Prop := ∀ c ∈ rest.head?, (ofMark? c).isSome = true

variable {rest : List Char}

/-- Quoted text is read back, up to the quote that ends it. -/
theorem scan_quoted (read text rest : List Char) :
    scan (.quoted read) (text.flatMap escapeElement ++ '"' :: rest) =
      (scan .between rest).map (.value (some (String.ofList (read ++ text))) :: ·) := by
  induction text generalizing read with
  | nil => simp [scan]
  | cons c text ih =>
    have behind := ih (read ++ [c])
    rw [List.append_assoc, List.singleton_append] at behind
    rw [List.flatMap_cons, List.append_assoc, escapeElement]
    split
    · rename_i special
      rw [← behind, List.cons_append, List.singleton_append, scan, if_neg (by decide), if_pos rfl, scan]
    · rename_i plain
      rw [not_or] at plain
      rw [← behind, List.singleton_append, scan, if_neg plain.1, if_neg plain.2]

theorem scan_quotedElement (text : String) (rest : List Char) :
    scan .between ((quotedElement text).toList ++ rest) =
      (scan .between rest).map (.value (some text) :: ·) := by
  rw [quotedElement, String.toList_ofList, List.cons_append, List.append_assoc,
    List.singleton_append]
  have inside := scan_quoted [] text.toList rest
  rwa [List.nil_append, String.ofList_toList] at inside

/-- The characters of words have no part in the structure. -/
theorem bare_of_isWordChar {c : Char} (letter : JsonToken.isWordChar c = true) :
    ofMark? c = none ∧ c ≠ '"' ∧ c ≠ '\\' ∧ c.isWhitespace = false := by
  have apart {d : Char} (other : JsonToken.isWordChar d = false) : c ≠ d := by
    rintro rfl
    rw [letter] at other
    cases other
  refine ⟨?_, apart (by decide), apart (by decide), ?_⟩
  · unfold ofMark?
    split <;> first | rfl | exact absurd rfl (apart (by decide))
  · refine Bool.eq_false_iff.mpr fun blank => ?_
    simp only [Char.isWhitespace, Bool.or_eq_true, decide_eq_true_eq] at blank
    rcases blank with ((rfl | rfl) | rfl) | rfl <;> exact absurd letter (by decide)

theorem scan_between_letter {c : Char} (letter : JsonToken.isWordChar c = true) (rest : List Char) :
    scan .between (c :: rest) = scan (.word [c] false) rest := by
  obtain ⟨unmarked, unquoted, unescaped, solid⟩ := bare_of_isWordChar letter
  simp [scan, unmarked, unquoted, unescaped, solid]

theorem scan_word_letter {c : Char} (letter : JsonToken.isWordChar c = true) (read rest : List Char) :
    scan (.word read false) (c :: rest) = scan (.word (read ++ [c]) false) rest := by
  obtain ⟨unmarked, unquoted, unescaped, solid⟩ := bare_of_isWordChar letter
  simp [scan, unmarked, unquoted, unescaped, solid]

/-- A word ends at a mark, or with the text. -/
theorem scan_word_end (read : List Char) (ended : EndsItem rest) :
    scan (.word read false) rest = (scan .between rest).map (ofWord read false :: ·) := by
  cases rest with
  | nil => rfl
  | cons c rest =>
    obtain ⟨mark, marked⟩ := Option.isSome_iff_exists.mp (ended c rfl)
    simp [scan, marked, Function.comp_def]

theorem scan_word (read word : List Char) (ended : EndsItem rest)
    (letters : ∀ c ∈ word, JsonToken.isWordChar c = true) :
    scan (.word read false) (word ++ rest) =
      (scan .between rest).map (ofWord (read ++ word) false :: ·) := by
  induction word generalizing read with
  | nil => rw [List.nil_append, List.append_nil, scan_word_end read ended]
  | cons c word ih =>
    have behind := ih (read ++ [c]) fun d present => letters d (by simp [present])
    rw [List.append_assoc, List.singleton_append] at behind
    rw [List.cons_append, scan_word_letter (letters c (by simp)), behind]

/-- A word that stands alone. -/
theorem scan_of_word? {value : Json} {word : String} (found : value.word? = some word)
    (ended : EndsItem rest) :
    scan .between (word.toList ++ rest) =
      (scan .between rest).map (ofWord word.toList false :: ·) := by
  have letters := Json.isWordChar_of_word? found
  cases characters : word.toList with
  | nil => exact absurd characters (Json.word_ne_nil found)
  | cons c word =>
    rw [characters] at letters
    have behind := scan_word [c] word ended fun d present => letters d (by simp [present])
    rw [List.cons_append, scan_between_letter (letters c (by simp)), behind, List.singleton_append]

/-- A value that is written as a word has one token. -/
theorem scan_wordElement {value : Json} {word : String} (found : value.word? = some word)
    (ended : EndsItem rest) :
    scan .between (value.arrayElement.toList ++ rest) =
      (scan .between rest).map (value.arrayItem.tokens ++ ·) := by
  have element : value.arrayElement = word ∧
      value.arrayItem.tokens = [ofWord word.toList false] := by
    rw [ofWord, Json.isNullWord_of_word? found, String.ofList_toList]
    cases value with
    | null | bool | number =>
      cases found
      exact ⟨rfl, rfl⟩
    | _ => cases found
  rw [element.1, element.2]
  exact scan_of_word? found ended

theorem scan_mark {c : Char} {mark : ArrayToken} (marked : ofMark? c = some mark) (rest : List Char) :
    scan .between (c :: rest) = (scan .between rest).map (mark :: ·) := by
  rw [scan, marked]

mutual

/-- An element has its tokens, whatever can come after it. -/
theorem scan_arrayElement (value : Json) {rest : List Char} (ended : EndsItem rest) :
    scan .between (value.arrayElement.toList ++ rest) =
      (scan .between rest).map (value.arrayItem.tokens ++ ·) := by
  cases value with
  | null | bool | number => exact scan_wordElement rfl ended
  | string text => exact scan_quotedElement text rest
  | object fields => exact scan_quotedElement _ rest
  | array items =>
    -- Whatever comes after the array, its items are followed by a brace.
    have closes : EndsItem ('\x7d' :: rest) := by
      rintro _ ⟨⟩
      rfl
    rw [Json.arrayElement, String.toList_append, String.toList_append, List.append_assoc,
      List.append_assoc]
    change scan .between ('\x7b' :: ((Json.arrayElements items).toList ++ '\x7d' :: rest)) = _
    rw [scan_mark rfl, scan_arrayElements items closes, scan_mark rfl, Json.arrayItem,
      ArrayItem.tokens]
    simp [Function.comp_def]

theorem scan_arrayElements (items : List Json) {rest : List Char} (ended : EndsItem rest) :
    scan .between ((Json.arrayElements items).toList ++ rest) =
      (scan .between rest).map (itemsTokens (Json.arrayItems items) ++ ·) := by
  match items with
  | [] => simp [Json.arrayElements, Json.arrayItems, itemsTokens]
  | [item] =>
    rw [Json.arrayElements, Json.arrayItems, Json.arrayItems, itemsTokens]
    exact scan_arrayElement item ended
  | item :: next :: others =>
    have separates (later : List Char) : EndsItem (',' :: later) := by
      rintro _ ⟨⟩
      rfl
    have written : Json.arrayElements (item :: next :: others) =
        item.arrayElement ++ "," ++ Json.arrayElements (next :: others) := rfl
    rw [written, String.toList_append, String.toList_append, List.append_assoc, List.append_assoc]
    change scan .between (item.arrayElement.toList ++
      (',' :: ((Json.arrayElements (next :: others)).toList ++ rest))) = _
    rw [scan_arrayElement item (separates _), scan_mark rfl, scan_arrayElements (next :: others) ended]
    simp [Json.arrayItems, itemsTokens, Function.comp_def]

end

end ArrayToken

/-! ## Tokens are put into arrays -/

namespace ArrayReader

theorem run_append (reader : ArrayReader) (first second : List ArrayToken) :
    reader.run (first ++ second) = (reader.run first).bind (·.run second) :=
  List.foldlM_append

theorem run_cons (reader : ArrayReader) (token : ArrayToken) (rest : List ArrayToken) :
    reader.run (token :: rest) = (reader.step token).bind (·.run rest) :=
  List.foldlM_cons

theorem run_closing (outer : List (List ArrayItem)) (items : List ArrayItem) {next : Awaited}
    (ready : next ≠ .item) :
    (inside outer items next).run [.closing] = some (close outer items) := by
  rw [run_cons, step, if_neg ready]
  rfl

/-- An array is read up to its end, if its items are added to it. -/
theorem run_enclosed {outer : List (List ArrayItem)} {nested : List ArrayItem}
    (added : nested ≠ [] → (inside outer [] .first).run (itemsTokens nested) =
      some (.inside outer nested .comma)) :
    (inside outer [] .first).run (itemsTokens nested ++ [.closing]) = some (close outer nested) := by
  rw [run_append]
  cases nested with
  | nil =>
    rw [itemsTokens]
    exact run_closing outer [] (by decide)
  | cons first rest =>
    rw [added nofun, Option.bind_some]
    exact run_closing outer (first :: rest) (by decide)

-- Outer arrays are not looked at until the inner one ends, so they may be any. An item is read before
-- or after others, but not where a comma is due.

mutual

/-- The tokens of an item add the item to the array. -/
theorem run_tokens (item : ArrayItem) (outer : List (List ArrayItem)) (items : List ArrayItem)
    {next : Awaited} (ready : next ≠ .comma) :
    (inside outer items next).run item.tokens = some (.inside outer (items ++ [item]) .comma) := by
  cases item with
  | value text =>
    rw [ArrayItem.tokens, run_cons, step, if_neg ready]
    rfl
  | array nested =>
    rw [ArrayItem.tokens, run_cons, step, if_neg ready, Option.bind_some]
    exact run_enclosed fun present => run_itemsTokens nested present (items :: outer) [] (by decide)

/-- The tokens of some items add them to the array. -/
theorem run_itemsTokens (nested : List ArrayItem) (present : nested ≠ [])
    (outer : List (List ArrayItem)) (items : List ArrayItem) {next : Awaited}
    (ready : next ≠ .comma) :
    (inside outer items next).run (itemsTokens nested) =
      some (.inside outer (items ++ nested) .comma) := by
  match nested with
  | [] => exact absurd rfl present
  | [item] =>
    rw [itemsTokens]
    exact run_tokens item outer items ready
  | item :: second :: others =>
    rw [itemsTokens, run_append, run_tokens item outer items ready, Option.bind_some, run_cons, step,
      if_pos rfl, Option.bind_some, run_itemsTokens (second :: others) nofun outer _ (by decide),
      List.append_assoc]
    · rfl
    · nofun

end

/-- The tokens of an array that stands alone. -/
theorem run_start (items : List ArrayItem) :
    ArrayReader.start.run (ArrayItem.array items).tokens = some (.finished items) := by
  rw [ArrayItem.tokens, run_cons, step, Option.bind_some]
  exact run_enclosed fun present => run_itemsTokens items present [] [] (by decide)

end ArrayReader

/-! ## Arrays that are sent -/

/-- An array literal is read as the items that are written in it. -/
theorem Json.readArray?_arrayElement (items : List Json) :
    readArray? (Json.array items).arrayElement = some (arrayItems items) := by
  have alone : ArrayToken.EndsItem [] := nofun
  have scanned := ArrayToken.scan_arrayElement (.array items) alone
  rw [List.append_nil, ArrayToken.scan, Option.map_some, List.append_nil, Json.arrayItem] at scanned
  rw [readArray?, scanned, Option.bind_eq_bind, Option.bind_some, ArrayReader.run_start]
  rfl

/-- The main result: what is sent for an array at a placeholder of an array type is an array literal,
which is read to its end and as the same tree: nulls as SQL nulls, strings as their text, numbers and
truth values as their text, objects as their JSON text, and arrays as arrays of their items. -/
theorem Json.readArray_encode (items : List Json) (element : ScalarType) :
    ((Json.array items).encode (.array element)).bind readArray? = some (arrayItems items) := by
  have sent : (Json.array items).encode (.array element) = some (Json.array items).arrayElement := rfl
  rw [sent, Option.bind_some, readArray?_arrayElement]

example :
    ((Json.array [.string "NULL", .null, .string "", .array [], .string "a\"\\,\x7d"]).encode
      (.array .text)).bind readArray? =
    some [.value (some "NULL"), .value none, .value (some ""), .array [],
      .value (some "a\"\\,\x7d")] := by
  rfl

end FluentSql
