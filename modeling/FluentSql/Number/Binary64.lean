/-!
# Binary floating-point numbers

The finite numbers of the 64-bit binary format, as a sign, a whole significand and a power of two,
and the rounding of a decimal numeral to the nearest of them. All of it is exact arithmetic on
natural numbers.
-/

namespace FluentSql

/-- A finite 64-bit binary number, worth `significand * 2 ^ exponent` with its sign. A number has
one representation: the significand fills 53 bits unless the exponent is the least one, `-1074`. -/
structure Binary64 where
  negative : Bool
  significand : Nat
  exponent : Int
deriving DecidableEq, Repr

namespace Binary64

/-- The least exponent; numbers below `2 ^ -1022` have it and fewer than 53 significant bits. -/
def leastExponent : Int := -1074

/-- The greatest exponent. -/
def greatestExponent : Int := 971

/-- A significand of 53 bits lies between this and twice this. -/
def leastFull : Nat := Nat.pow 2 52

/-- Zero with a sign. -/
def zero (negative : Bool) : Binary64 := ⟨negative, 0, leastExponent⟩

/-- The number is zero, of either sign. -/
def isZero (x : Binary64) : Bool := x.significand == 0

/-- Equality of value: the two zeros are equal, and all other numbers have one representation. -/
def sameValue (x y : Binary64) : Bool :=
  (x.isZero && y.isZero) || x == y

/-- The quotient of two natural numbers rounded to a whole number, a half going to the even one. -/
def roundHalfEven (num den : Nat) : Nat :=
  let quotient := num / den
  let twice := 2 * (num % den)
  if twice < den then quotient
  else if den < twice then quotient + 1
  else quotient + quotient % 2

/-- `num / den` scaled by `2 ^ -exponent`, as a numerator and a denominator. -/
def scale (num den : Nat) (exponent : Int) : Nat × Nat :=
  (num * Nat.pow 2 (-exponent).toNat, den * Nat.pow 2 exponent.toNat)

/-- The exponent with which `num / den` has a significand of 53 bits, or the least one. -/
def exponentFor (num den : Nat) : Int :=
  let guess : Int := (Nat.log2 num : Int) - (Nat.log2 den : Int) - 52
  let (n, d) := scale num den guess
  let full := if n < d * leastFull then guess - 1 else guess
  max full leastExponent

/-- The number nearest to the fraction `num / den`, ties going to the even significand; `none` when
the fraction is too great for the format. -/
def ofFraction (negative : Bool) (num den : Nat) : Option Binary64 :=
  if num = 0 then some (zero negative)
  else
    let exponent := exponentFor num den
    let (n, d) := scale num den exponent
    let rounded := roundHalfEven n d
    let number : Binary64 :=
      if rounded = 2 * leastFull then ⟨negative, leastFull, exponent + 1⟩
      else ⟨negative, rounded, exponent⟩
    if greatestExponent < number.exponent then none else some number

/-- The number of decimal digits of a natural number; zero has none. -/
def digitCount (n : Nat) : Nat :=
  if n = 0 then 0 else digitCount (n / 10) + 1

/-- The number nearest to `digits * 10 ^ exponent`, or `none` when that is too great. Numerals
outside `10 ^ -330` to `10 ^ 310` are decided by their size alone. -/
def ofDecimal (negative : Bool) (digits : Nat) (exponent : Int) : Option Binary64 :=
  let magnitude := (digitCount digits : Int) + exponent
  if digits = 0 then some (zero negative)
  else if 310 < magnitude then none
  else if magnitude < -330 then some (zero negative)
  else ofFraction negative (digits * Nat.pow 10 exponent.toNat) (Nat.pow 10 (-exponent).toNat)

/-- The number as a fraction of natural numbers, without its sign. -/
def toFraction (x : Binary64) : Nat × Nat :=
  (x.significand * Nat.pow 2 x.exponent.toNat, Nat.pow 2 (-x.exponent).toNat)

end Binary64

end FluentSql
