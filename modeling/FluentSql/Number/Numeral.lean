import FluentSql.Number.Binary64

/-!
# Numerals

Reading numbers from text: integers of a fixed width, and decimals with a point and an exponent.
Digits are ASCII, and nothing may surround a numeral.
-/

namespace FluentSql

/-- The value of a decimal digit. -/
def digitValue? (c : Char) : Option Nat :=
  if '0' ≤ c ∧ c ≤ '9' then some (c.toNat - '0'.toNat) else none

/-- The value of a hexadecimal digit. -/
def hexDigitValue? (c : Char) : Option Nat :=
  if '0' ≤ c ∧ c ≤ '9' then some (c.toNat - '0'.toNat)
  else if 'a' ≤ c ∧ c ≤ 'f' then some (c.toNat - 'a'.toNat + 10)
  else if 'A' ≤ c ∧ c ≤ 'F' then some (c.toNat - 'A'.toNat + 10)
  else none

/-- The value of a nonempty run of digits. -/
def natural? (text : List Char) : Option Nat :=
  if text.isEmpty then none
  else text.foldlM (fun value c => (digitValue? c).map (10 * value + ·)) 0

/-- A numeral's sign, which may be missing, and what follows it. -/
def takeSign : List Char → Bool × List Char
  | '-' :: rest => (true, rest)
  | '+' :: rest => (false, rest)
  | text => (false, text)

-- Powers are written without `^`, which stands for another function where Mathlib is imported.

/-- The range of signed 64-bit integers. -/
def isInt64 (n : Int) : Bool := -Int.pow 2 63 ≤ n && n < Int.pow 2 63

/-- A signed 64-bit integer: an optional sign and digits. -/
def int64? (text : List Char) : Option Int := do
  let (negative, digits) := takeSign text
  let magnitude ← natural? digits
  let value : Int := if negative then -(magnitude : Int) else magnitude
  if isInt64 value then some value else none

/-- An unsigned integer of so many bits: digits, which a `+` may come before. -/
def unsigned? (bits : Nat) (text : List Char) : Option Nat := do
  let value ← natural? (match text with
    | '+' :: rest => rest
    | rest => rest)
  if value < Nat.pow 2 bits then some value else none

/-- The parts of a decimal numeral. -/
structure DecimalNumeral where
  negative : Bool
  digits : Nat
  exponent : Int
deriving DecidableEq, Repr

/-- The exponent part of a numeral: nothing, or `e` and a signed run of digits. -/
def exponentPart? : List Char → Option Int
  | [] => some 0
  | _ :: rest => do
    let (negative, digits) := takeSign rest
    let magnitude ← natural? digits
    some (if negative then -(magnitude : Int) else magnitude)

/-- The fraction part of a numeral: nothing, or a point and digits. -/
def fractionPart : List Char → List Char
  | [] => []
  | _ :: rest => rest

/-- A decimal numeral: an optional sign, digits with at most one point among or beside them, and an
optional exponent. At least one digit is needed before the exponent. -/
def decimal? (text : List Char) : Option DecimalNumeral := do
  let (negative, unsigned) := takeSign text
  let isMark := fun c => c != 'e' && c != 'E'
  let mantissa := unsigned.takeWhile isMark
  let whole := mantissa.takeWhile (· != '.')
  let fraction := fractionPart (mantissa.dropWhile (· != '.'))
  if whole.isEmpty && fraction.isEmpty then none
  else
    let exponent ← exponentPart? (unsigned.dropWhile isMark)
    let digits ← natural? (whole ++ fraction)
    some ⟨negative, digits, exponent - fraction.length⟩

/-- The finite binary number that a decimal numeral stands for, if it is one and is in range. -/
def binary64? (text : List Char) : Option Binary64 := do
  let numeral ← decimal? text
  Binary64.ofDecimal numeral.negative numeral.digits numeral.exponent

end FluentSql
