import FluentSql.Number.Shortest

/-!
# The text of numbers

Integers in decimal, and binary numbers with their shortest digits: positional from `0.00001` up to
`10 ^ 16`, in scientific notation outside that range.
-/

namespace FluentSql

/-- The decimal digits of a natural number, most significant first. -/
def digitsOf (n : Nat) : List Char := Nat.toDigits 10 n

/-- A natural number in decimal. -/
def natText (n : Nat) : String := String.ofList (digitsOf n)

/-- An integer in decimal, with a minus sign when it is negative. -/
def intText (n : Int) : String :=
  if n < 0 then String.ofList ('-' :: digitsOf n.natAbs) else natText n.natAbs

namespace Decimal

/-- Positional notation serves the decimals `0.d₁d₂… * 10 ^ scale` with a scale in this range. -/
def isPositional (decimal : Decimal) : Bool := -5 < decimal.scale && decimal.scale ≤ 16

/-- Positional notation; a whole number ends in `.0`. -/
def positional (decimal : Decimal) : List Char :=
  let digits := digitsOf decimal.digits
  let whole := decimal.scale.toNat
  if decimal.scale ≤ 0 then
    '0' :: '.' :: (List.replicate (-decimal.scale).toNat '0' ++ digits)
  else if digits.length ≤ whole then
    digits ++ List.replicate (whole - digits.length) '0' ++ ['.', '0']
  else
    digits.take whole ++ '.' :: digits.drop whole

/-- Scientific notation: one digit before the point, and an exponent with a sign and no padding. -/
def scientific (decimal : Decimal) : List Char :=
  let digits := digitsOf decimal.digits
  let exponent := decimal.scale - 1
  let sign := if exponent < 0 then '-' else '+'
  let fraction := match digits.drop 1 with
    | [] => []
    | rest => '.' :: rest
  digits.take 1 ++ fraction ++ 'e' :: sign :: digitsOf exponent.natAbs

/-- The decimal in the notation that its scale asks for. -/
def layout (decimal : Decimal) : List Char :=
  if decimal.isPositional then decimal.positional else decimal.scientific

end Decimal

/-- The text of a binary number: its sign, then the shortest digits that read back. -/
def Binary64.text (x : Binary64) : String :=
  let sign := if x.negative then ['-'] else []
  let magnitude := if x.isZero then ['0', '.', '0'] else x.shortest.layout
  String.ofList (sign ++ magnitude)

end FluentSql
