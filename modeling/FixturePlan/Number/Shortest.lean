import FixturePlan.Number.Binary64

/-!
# The shortest decimal of a float

Among the decimals that read back as a given float there is a shortest one, and among the shortest
the nearest. For each number of digits, one to seventeen, the two neighbours of the float on that
decimal grid are tested in exact arithmetic; the first grid with a neighbour that reads back wins.
-/

namespace FixturePlan.Number

structure Decimal where
  digits : Nat
  exponent : Int
  deriving Repr, DecidableEq

/-- Which of two equally near decimals is taken. -/
inductive DecimalTie where
  | up
  /-- The one whose last digit is even. -/
  | even
  deriving Repr, DecidableEq

namespace Shortest

/-! ### What reads back

The reals nearer to a float than to any other read back as that float. The middle between two floats reads
back as the one with the even significand. -/

/-- The reals that read back as one float, as fractions over one denominator. -/
structure Interval where
  low : Nat
  value : Nat
  high : Nat
  denominator : Nat
  /-- Whether the ends themselves read back. -/
  closed : Bool

/-- The interval of a positive float. Below a power of two the next float is only half as far away
as above it. -/
def interval (significand : Nat) (exponent : Int) : Interval :=
  let below :=
    if significand == Binary64.fullSignificand && exponent != Binary64.leastExponent then 1 else 2
  let e := exponent - 2
  let scale := Nat.pow 2 e.toNat
  { low := (4 * significand - below) * scale
    value := 4 * significand * scale
    high := (4 * significand + 2) * scale
    denominator := Nat.pow 2 (-e).toNat
    closed := significand % 2 == 0 }

def Interval.contains (i : Interval) (numerator scale : Nat) : Bool :=
  if i.closed then i.low * scale ≤ numerator && numerator ≤ i.high * scale
  else i.low * scale < numerator && numerator < i.high * scale

/-! ### Grids -/

/-- The neighbour on the grid of multiples of `10 ^ exponent` that reads back, and if both do the
nearer one. -/
def onGrid? (i : Interval) (tie : DecimalTie) (exponent : Int) : Option Decimal :=
  let up := Nat.pow 10 exponent.toNat
  let down := Nat.pow 10 (-exponent).toNat
  let step := i.denominator * up
  let lower := i.value * down / step
  let upper := lower + 1
  let lowerFits := i.contains (lower * step) down
  let upperFits := i.contains (upper * step) down
  -- the distances to both neighbours, over the same denominator
  let toUpper := upper * step - i.value * down
  let toLower := i.value * down - lower * step
  let upperNearer := if toUpper = toLower then tie = .up || upper % 2 = 0 else toUpper < toLower
  if upperFits && (!lowerFits || upperNearer) then some ⟨upper, exponent⟩
  else if lowerFits then some ⟨lower, exponent⟩
  else none

def digitCount (n : Nat) : Nat := (Nat.toDigits 10 n).length

/-- How many digits the whole part of the value has; zero or less for a value below one, where the
zeros after the point count down. No power of ten below one is a float, so there the whole part of
the reciprocal decides. -/
def pointPosition (i : Interval) : Int :=
  if i.denominator ≤ i.value then digitCount (i.value / i.denominator)
  else 1 - (digitCount (i.denominator / i.value) : Int)

/-- Drop trailing zeros, at most as many as there are digits. -/
def dropZeros : Nat → Decimal → Decimal
  | 0, d => d
  | n + 1, d =>
    if d.digits != 0 && d.digits % 10 == 0 then dropZeros n ⟨d.digits / 10, d.exponent + 1⟩ else d

end Shortest

open Shortest in
/-- The shortest decimal that reads back as the positive float `significand * 2 ^ exponent`. -/
def shortest (tie : DecimalTie) (significand : Nat) (exponent : Int) : Decimal :=
  let i := interval significand exponent
  let point := pointPosition i
  let grids := (List.range 18).map fun n => point - (n + 1 : Nat)
  let found := (grids.findSome? (onGrid? i tie)).getD ⟨significand, exponent⟩
  dropZeros (digitCount found.digits) found

end FixturePlan.Number
