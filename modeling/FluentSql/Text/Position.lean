import FluentSql.Number.Layout
import FluentSql.Number.Numeral

/-!
# Positions

The reason for a failure may end with the place in a text that it is about: ` at line 3 column 14`.
Lines count from one, and line zero says that the place is not known. A reason tells its position in
plain numbers, and not at all if it is not known.
-/

namespace FluentSql

/-- A place in a text. -/
structure Position where
  line : Nat
  column : Nat
deriving DecidableEq, Repr

namespace Position

/-- What comes before a line number. -/
def lineMark : String := " at line "

/-- What comes before a column number. -/
def columnMark : String := " column "

/-- The words for a position at the end of a reason. -/
def ending (position : Position) : String :=
  if position.line = 0 then ""
  else lineMark ++ natText position.line ++ columnMark ++ natText position.column

/-- A number of a position, which has 64 bits. -/
def number? (digits : List Char) : Option Nat := (natural? digits).filter (· < Nat.pow 2 64)

/-- The position whose words after the line mark are a text. -/
def ofText? (text : List Char) : Option Position := do
  let line ← number? (text.takeWhile Char.isDigit)
  let rest ← columnMark.toList.isPrefixOf? (text.dropWhile Char.isDigit)
  let column ← number? rest
  some ⟨line, column⟩

/-- The text before the last occurrence of a mark, and the text after it. -/
def splitLast? (mark : List Char) : List Char → Option (List Char × List Char)
  | [] => none
  | c :: rest =>
    match splitLast? mark rest with
    | some (before, after) => some (c :: before, after)
    | none => (mark.isPrefixOf? (c :: rest)).map fun after => ([], after)

/-- A reason without the position it ends with, and that position. -/
def ofReason? (reason : String) : Option (String × Position) := do
  let (before, after) ← splitLast? lineMark.toList reason.toList
  let position ← ofText? after
  some (String.ofList before, position)

/-- A reason with the position it ends with, if there is one, in plain numbers. -/
def plainReason (reason : String) : String :=
  match ofReason? reason with
  | some (before, position) => before ++ position.ending
  | none => reason

end Position

end FluentSql
