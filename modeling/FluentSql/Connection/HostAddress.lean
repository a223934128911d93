import FluentSql.Number.Numeral

/-!
# Host addresses

The numeric addresses of hosts: four decimal bytes separated by points, or eight groups of sixteen
bits separated by colons. The last two groups may be written as four bytes, and one run of zero
groups may be left out.
-/

namespace FluentSql

namespace HostAddress

/-- A decimal byte, without leading zeros. -/
def isByte (text : List Char) : Bool :=
  (natural? text).any (· < 256) && (text.head? != some '0' || text.length == 1)

/-- An address of four bytes. -/
def isFourBytes (text : List Char) : Bool :=
  let parts := text.splitOn '.'
  parts.length == 4 && parts.all isByte

/-- A group of sixteen bits: up to four hexadecimal digits. -/
def isGroup (text : List Char) : Bool :=
  !text.isEmpty && text.length ≤ 4 && text.all fun c => (hexDigitValue? c).isSome

/-- The number of groups in a list of them. Four bytes at the end count as two, where they are
allowed. -/
def groupCount? (fourBytesLast : Bool) : List (List Char) → Option Nat
  | [] => some 0
  | [last] =>
    if isGroup last then some 1 else if fourBytesLast && isFourBytes last then some 2 else none
  | group :: rest => if isGroup group then (groupCount? fourBytesLast rest).map (· + 1) else none

/-- The number of groups in a text, which may be empty. -/
def textGroupCount? (fourBytesLast : Bool) (text : List Char) : Option Nat :=
  if text.isEmpty then some 0 else groupCount? fourBytesLast (text.splitOn ':')

/-- The text before the first double colon, and the text after it. -/
def splitDoubleColon? : List Char → Option (List Char × List Char)
  | ':' :: ':' :: rest => some ([], rest)
  | [] => none
  | c :: rest => (splitDoubleColon? rest).map fun (before, after) => (c :: before, after)

/-- An address of eight groups. A double colon stands for at least one group. -/
def isEightGroups (text : List Char) : Bool :=
  match splitDoubleColon? text with
  | none => textGroupCount? true text == some 8
  | some (before, after) =>
    match textGroupCount? false before, textGroupCount? true after with
    | some first, some second => first + second ≤ 7
    | _, _ => false

end HostAddress

/-- A numeric address of a host. -/
def isHostAddress (text : List Char) : Bool :=
  HostAddress.isFourBytes text || HostAddress.isEightGroups text

end FluentSql
