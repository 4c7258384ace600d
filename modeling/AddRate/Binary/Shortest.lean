import AddRate.Binary.Double

/-!
# Shortest decimals

The decimal of fewest digits that reads back as a given double: of the decimals on the coarsest
grid of powers of ten that meets the interval of values rounding to the double, the nearest one.
A double can lie halfway between two of them: which one is its text is for a format to say.
-/

namespace AddRate.Binary.Double

/-- A decimal `digits · 10 ^ exponent`. -/
structure Decimal where
  digits : Nat
  exponent : Int
  deriving DecidableEq, Repr

/-- The interval of values that round to a double, around the double itself. All three are
counts of quarter units; the ends belong to it when the significand is even. -/
structure Rounding where
  lower : Nat
  exact : Nat
  upper : Nat
  closed : Bool

/-- The interval of a positive finite double. Below a power of two the doubles lie twice as
close, except at the bottom of the range. -/
def rounding (x : Double) : Rounding :=
  let significand := binary64.significand x.magnitude
  let step := Nat.pow 2 (binary64.surplus x.magnitude)
  let narrow := significand = Nat.pow 2 binary64.fractionBits ∧ 1 < step
  { lower := 4 * x.units - (if narrow then step else 2 * step)
    exact := 4 * x.units
    upper := 4 * x.units + 2 * step
    closed := significand % 2 == 0 }

/-- The decimal nearest to the exact value among those on the grid `10 ^ exponent` that lie in
the interval. Both sides of every comparison are scaled by the denominators of the grid and of
the quarter unit. -/
def Rounding.onGrid? (tie : Tie) (interval : Rounding) (exponent : Int) : Option Decimal :=
  let grid := 4 * binary64.unitsPerOne * Nat.pow 10 exponent.toNat
  let scale := Nat.pow 10 (-exponent).toNat
  let lower := interval.lower * scale
  let exact := interval.exact * scale
  let upper := interval.upper * scale
  let inside (digits : Nat) : Bool :=
    if interval.closed then
      lower ≤ digits * grid && digits * grid ≤ upper
    else
      lower < digits * grid && digits * grid < upper
  let below := exact / grid
  let nearest := divRound tie exact grid
  let other := if nearest = below then below + 1 else below
  if inside nearest then
    some ⟨nearest, exponent⟩
  else if inside other then
    some ⟨other, exponent⟩
  else
    none

/-- An exponent of ten above every decimal that can read back as the double. -/
def topExponent (x : Double) : Int :=
  ((x.units.log2 : Int) - binary64.unitsPerOne.log2 + 1) * 30103 / 100000 + 2

/-- The shortest decimal of a positive finite double. Seventeen digits always suffice, so a grid
is found among the twenty below the top exponent. -/
def shortest (tie : Tie) (x : Double) : Decimal :=
  let interval := x.rounding
  ((List.range 20).findSome? fun (depth : Nat) =>
    interval.onGrid? tie (x.topExponent - depth)).getD ⟨0, 0⟩

end AddRate.Binary.Double
