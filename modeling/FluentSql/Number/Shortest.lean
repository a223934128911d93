import FluentSql.Number.Binary64

/-!
# Shortest decimal digits

The fewest decimal digits that read back as a given binary number, and among those the ones nearest
to it. The reals that round to a number form an interval; a grid of decimals with a fixed number of
digits reaches into that interval exactly when one of the two grid points next to the number does.
-/

namespace FluentSql

/-- The decimal `0.d₁d₂… * 10 ^ scale`, its digits given as one natural number. -/
structure Decimal where
  digits : Nat
  scale : Int
deriving DecidableEq, Repr

namespace Binary64

/-- The interval of reals that round to a number, as numerators over one denominator. Its ends
belong to it exactly when the significand is even. -/
structure RoundingInterval where
  low : Nat
  value : Nat
  high : Nat
  denominator : Nat
  closed : Bool
deriving DecidableEq, Repr

/-- Half a unit of the significand on either side, a quarter below a power of two. -/
def roundingInterval (x : Binary64) : RoundingInterval :=
  let unit := Nat.pow 2 x.exponent.toNat
  let below := if x.significand = leastFull ∧ leastExponent < x.exponent then 1 else 2
  { low := (4 * x.significand - below) * unit
    value := 4 * x.significand * unit
    high := (4 * x.significand + 2) * unit
    denominator := 4 * Nat.pow 2 (-x.exponent).toNat
    closed := x.significand % 2 == 0 }

/-- Whether the fraction `num / den` lies in the interval. -/
def RoundingInterval.contains (i : RoundingInterval) (num den : Nat) : Bool :=
  let point := num * i.denominator
  if i.closed then i.low * den ≤ point && point ≤ i.high * den
  else i.low * den < point && point < i.high * den

/-- The power of ten that a positive fraction lies just below: `10 ^ (e - 1) ≤ num / den < 10 ^ e`.
-/
def decimalExponent (num den : Nat) : Int :=
  let guess : Int := (digitCount num : Int) - (digitCount den : Int)
  if num * Nat.pow 10 (-guess).toNat < den * Nat.pow 10 guess.toNat then guess else guess + 1

/-- The grid point of `count` digits that lies in the interval and nearest to its number; of two
that are equally near, the even one. -/
def RoundingInterval.onGrid (i : RoundingInterval) (scale : Int) (count : Nat) : Option Nat :=
  let shift : Int := count - scale
  let up := Nat.pow 10 shift.toNat
  let down := Nat.pow 10 (-shift).toNat
  let num := i.value * up
  let den := i.denominator * down
  let floor := num / den
  let remainder := num % den
  let lower := i.contains (floor * down) up
  let upper := i.contains ((floor + 1) * down) up
  match lower, upper with
  | false, false => none
  | true, false => some floor
  | false, true => some (floor + 1)
  | true, true =>
    if 2 * remainder < den then some floor
    else if den < 2 * remainder then some (floor + 1)
    else some (floor + floor % 2)

/-- The first grid, from `count` digits on, that reaches into the interval. -/
def RoundingInterval.firstOnGrid (i : RoundingInterval) (scale : Int) :
    (count fuel : Nat) → Nat × Nat
  | count, 0 => (i.value, count)
  | count, fuel + 1 =>
    match i.onGrid scale count with
    | some digits => (digits, count)
    | none => i.firstOnGrid scale (count + 1) fuel

/-- The shortest digits of a nonzero number. Seventeen digits always suffice. -/
def shortest (x : Binary64) : Decimal :=
  let interval := x.roundingInterval
  let scale := decimalExponent interval.value interval.denominator
  let (digits, count) := interval.firstOnGrid scale 1 17
  if digits = Nat.pow 10 count then ⟨1, scale + 1⟩ else ⟨digits, scale⟩

end Binary64

end FluentSql
