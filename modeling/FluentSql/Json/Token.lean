import FluentSql.Json.Basic

/-!
# JSON tokens

The tokens of JSON text. The lexer reads one character at a time: it stands between tokens, inside a
word (a number or a literal), or inside a string. A text that breaks the lexical rules has no
tokens.
-/

namespace FluentSql

/-- A token of JSON text. -/
inductive JsonToken where
  | openArray
  | closeArray
  | openObject
  | closeObject
  | comma
  | colon
  | literal (value : Json)
  | string (value : String)
deriving Repr

namespace JsonToken

/-- The digits of a JSON integer part: one digit, or several that do not begin with zero. -/
def isWholePart (digits : List Char) : Bool :=
  match digits with
  | [] => false
  | [c] => c.isDigit
  | c :: rest => c.isDigit && c != '0' && rest.all Char.isDigit

/-- A nonempty run of digits. -/
def isDigitRun (digits : List Char) : Bool := !digits.isEmpty && digits.all Char.isDigit

/-- The fraction of a JSON number: nothing, or a point and digits. -/
def isFraction : List Char → Bool
  | [] => true
  | c :: rest => c == '.' && isDigitRun rest

/-- The exponent of a JSON number: nothing, or `e`, a sign that may be missing, and digits. -/
def isExponent : List Char → Bool
  | [] => true
  | _ :: rest => isDigitRun (takeSign rest).2

/-- The word without a minus sign before it. -/
def unsignedPart (word : List Char) : List Char :=
  match word with
  | '-' :: rest => rest
  | rest => rest

/-- Whether a word follows the grammar of JSON numbers. -/
def isNumber (word : List Char) : Bool :=
  let unsigned := unsignedPart word
  let isMark := fun c => c != 'e' && c != 'E'
  let mantissa := unsigned.takeWhile isMark
  isWholePart (mantissa.takeWhile (· != '.')) && isFraction (mantissa.dropWhile (· != '.')) &&
    isExponent (unsigned.dropWhile isMark)

/-- Integers that a JSON number holds exactly: the signed and the unsigned 64-bit range. -/
def isExactInt (n : Int) : Bool := -Int.pow 2 63 ≤ n && n < Int.pow 2 64

/-- A word of digits alone is an integer if that is exact; `-0`, greater integers and words with a
point or an exponent are binary numbers, which must be finite. -/
def number? (word : List Char) : Option Number :=
  if isNumber word then
    let exact : Option Int := do
      let magnitude ← natural? (unsignedPart word)
      let value : Int := if word.head? == some '-' then -(magnitude : Int) else magnitude
      if isExactInt value && !(word.head? == some '-' && magnitude == 0) then some value else none
    match exact with
    | some value => some (.int value)
    | none => (binary64? word).map .float
  else none

/-- The token of a word. -/
def ofWord? (word : List Char) : Option JsonToken :=
  if word = "null".toList then some (.literal .null)
  else if word = "true".toList then some (.literal (.bool true))
  else if word = "false".toList then some (.literal (.bool false))
  else (number? word).map fun n => .literal (.number n)

/-- Where the lexer stands. Texts under way are held back to front. -/
inductive Mode where
  | between
  | word (read : List Char)
  | text (read : List Char)
  | escape (read : List Char)
  /-- Inside `\u`: the digits still to come and the value so far. After the first half of a
  surrogate pair, `high` is that half. -/
  | code (read : List Char) (high : Option Nat) (missing value : Nat)
  /-- After the first half of a surrogate pair: `\` and then `u` must follow. -/
  | pairMark (read : List Char) (high : Nat)
  | pairCode (read : List Char) (high : Nat)
deriving Repr

/-- The lexer: the tokens read so far, back to front, and where it stands. -/
structure Lexer where
  tokens : List JsonToken
  mode : Mode
deriving Repr

/-- The blanks of JSON. -/
def isSpace (c : Char) : Bool := c == ' ' || c == '\t' || c == '\n' || c == '\r'

/-- The characters that words are made of. -/
def isWordChar (c : Char) : Bool := c.isAlphanum || c == '-' || c == '+' || c == '.'

/-- The token of a punctuation mark. -/
def ofMark? : Char → Option JsonToken
  | '[' => some .openArray
  | ']' => some .closeArray
  | '\x7b' => some .openObject
  | '\x7d' => some .closeObject
  | ',' => some .comma
  | ':' => some .colon
  | _ => none

/-- The character of a one-letter escape. -/
def escaped? : Char → Option Char
  | '"' => some '"'
  | '\\' => some '\\'
  | '/' => some '/'
  | 'b' => some '\x08'
  | 'f' => some '\x0c'
  | 'n' => some '\n'
  | 'r' => some '\r'
  | 't' => some '\t'
  | _ => none

/-- What a complete `\u` escape does: a code point of its own is read, the first half of a surrogate
pair waits for the second, and a half alone is refused. -/
def closeCode (read : List Char) (high : Option Nat) (value : Nat) : Option Mode :=
  let isHigh := 0xD800 ≤ value && value < 0xDC00
  let isLow := 0xDC00 ≤ value && value < 0xE000
  match high with
  | some first =>
    if isLow then
      some (.text (Char.ofNat (0x10000 + (first - 0xD800) * 0x400 + (value - 0xDC00)) :: read))
    else none
  | none =>
    if isHigh then some (.pairMark read value)
    else if isLow then none
    else some (.text (Char.ofNat value :: read))

namespace Lexer

/-- A character read between tokens. -/
def stepBetween (lexer : Lexer) (c : Char) : Option Lexer :=
  if isSpace c then some { lexer with mode := .between }
  else if c = '"' then some { lexer with mode := .text [] }
  else if isWordChar c then some { lexer with mode := .word [c] }
  else (ofMark? c).map fun token => ⟨token :: lexer.tokens, .between⟩

/-- Ends a word. -/
def endWord (lexer : Lexer) (read : List Char) : Option Lexer :=
  (ofWord? read.reverse).map fun token => ⟨token :: lexer.tokens, .between⟩

/-- Reads one character. -/
def step (lexer : Lexer) (c : Char) : Option Lexer :=
  match lexer.mode with
  | .between => lexer.stepBetween c
  | .word read =>
    if isWordChar c then some { lexer with mode := .word (c :: read) }
    else (lexer.endWord read).bind (·.stepBetween c)
  | .text read =>
    if c = '"' then some ⟨.string (String.ofList read.reverse) :: lexer.tokens, .between⟩
    else if c = '\\' then some { lexer with mode := .escape read }
    else if c.toNat < 0x20 then none
    else some { lexer with mode := .text (c :: read) }
  | .escape read =>
    if c = 'u' then some { lexer with mode := .code read none 4 0 }
    else (escaped? c).map fun character => { lexer with mode := .text (character :: read) }
  | .code read high missing value => do
    let digit ← hexDigitValue? c
    let value := 16 * value + digit
    if missing ≤ 1 then
      let mode ← closeCode read high value
      some { lexer with mode }
    else some { lexer with mode := .code read high (missing - 1) value }
  | .pairMark read high =>
    if c = '\\' then some { lexer with mode := .pairCode read high } else none
  | .pairCode read high =>
    if c = 'u' then some { lexer with mode := .code read (some high) 4 0 } else none

/-- The tokens once the text has ended. -/
def finish (lexer : Lexer) : Option (List JsonToken) :=
  match lexer.mode with
  | .between => some lexer.tokens.reverse
  | .word read => (lexer.endWord read).map (·.tokens.reverse)
  | _ => none

end Lexer

/-- The tokens of a text. -/
def scan (text : List Char) : Option (List JsonToken) :=
  (text.foldlM Lexer.step ⟨[], .between⟩).bind Lexer.finish

end JsonToken

end FluentSql
