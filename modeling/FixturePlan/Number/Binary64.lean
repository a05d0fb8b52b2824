/-!
# Binary floating point numbers

A 64-bit float taken apart into its class, sign, significand and exponent, so that its exact value
can be computed with in whole numbers.
-/

namespace FixturePlan.Number

/-! ### Exact values -/

/-- The exact value of a float. -/
inductive Binary64 where
  | nan
  | infinite (negative : Bool)
  /-- The number `± significand * 2 ^ exponent`. -/
  | finite (negative : Bool) (significand : Nat) (exponent : Int)
  deriving Repr, DecidableEq

namespace Binary64

/-- The exponent of the smallest floats. -/
def leastExponent : Int := -1074

/-- The smallest significand that has its full width of 53 bits. -/
def fullSignificand : Nat := Nat.pow 2 52

def ofFloat (x : Float) : Binary64 :=
  let bits := x.toBits.toNat
  let negative := bits / Nat.pow 2 63 == 1
  let field := bits / Nat.pow 2 52 % Nat.pow 2 11
  let fraction := bits % Nat.pow 2 52
  if field == 2047 then
    if fraction == 0 then .infinite negative else .nan
  -- numbers too small for a leading one bit, zero among them
  else if field == 0 then .finite negative fraction leastExponent
  else .finite negative (fullSignificand + fraction) (leastExponent + (field - 1 : Nat))

def toInt? : Binary64 → Option Int
  | .finite negative significand exponent =>
    let sign : Int := if negative then -1 else 1
    if exponent ≥ 0 then some (sign * (significand * Nat.pow 2 exponent.toNat : Nat))
    else
      let unit := Nat.pow 2 (-exponent).toNat
      if significand % unit == 0 then some (sign * (significand / unit : Nat)) else none
  | _ => none

def ofInt (n : Int) : Binary64 := .finite (n < 0) n.natAbs 0

/-! ### Order -/

/-- Finite numbers in order of their values: both are brought to the smaller of their exponents. -/
def compareFinite (negative : Bool) (significand : Nat) (exponent : Int) (negative' : Bool)
    (significand' : Nat) (exponent' : Int) : Ordering :=
  let unit := min exponent exponent'
  let scaled (negative : Bool) (significand : Nat) (exponent : Int) : Int :=
    let magnitude : Int := (significand * Nat.pow 2 (exponent - unit).toNat : Nat)
    if negative then -magnitude else magnitude
  compare (scaled negative significand exponent) (scaled negative' significand' exponent')

/-- Whether a value lies below (-1), among (0) or above (1) the finite numbers. -/
def side : Binary64 → Int
  | .nan => -2
  | .infinite negative => if negative then -1 else 1
  | .finite _ _ _ => 0

/-- Numbers in order of their values, the infinities at both ends. -/
def order : Binary64 → Binary64 → Ordering
  | .finite n s e, .finite n' s' e' => compareFinite n s e n' s' e'
  | a, b => compare a.side b.side

end Binary64

/-! ### Whole numbers of 64 bits -/

def leastInt64 : Int := -Nat.pow 2 63

def greatestInt64 : Int := Nat.pow 2 63 - 1

/-- A whole number kept within the signed range of 64 bits. -/
def clampInt64 (n : Int) : Int := max leastInt64 (min greatestInt64 n)

def inInt64 (n : Int) : Bool := leastInt64 ≤ n && n ≤ greatestInt64

end FixturePlan.Number
