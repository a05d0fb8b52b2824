import FixturePlan.Number.Shortest

/-!
# Decimal notations of floats

How the shortest decimal of a float is laid out: with all its places or with an exponent, and with or
without a fraction on whole numbers. A notation is one record, and the notations of this library
stand at the end.
-/

namespace FixturePlan.Number

structure FloatNotation where
  /-- The range of the decimal point's position, counted from the first digit, in which a number is
  written with all its places; without a range every number is. -/
  positional : Option (Int × Int)
  /-- Whether a whole number with all its places still ends in `.0`. -/
  wholeFraction : Bool
  plusSign : Bool
  /-- Which of two equally near shortest decimals is written. -/
  tie : DecimalTie
  deriving Repr, DecidableEq

namespace FloatNotation

/-! ### Laying out digits -/

/-- The text of digits with the decimal point at a position. -/
def places (n : FloatNotation) (digits : List Char) (point : Int) : List Char :=
  if point ≤ 0 then ['0', '.'] ++ List.replicate (-point).toNat '0' ++ digits
  else if digits.length ≤ point.toNat then
    digits ++ List.replicate (point.toNat - digits.length) '0' ++
      (if n.wholeFraction then ['.', '0'] else [])
  else digits.take point.toNat ++ ['.'] ++ digits.drop point.toNat

/-- The text of digits with one digit before the point and an exponent. -/
def scientific (n : FloatNotation) (digits : List Char) (point : Int) : List Char :=
  digits.take 1 ++ (if digits.length ≤ 1 then [] else '.' :: digits.drop 1) ++
    ['e'] ++ (if n.plusSign && 1 ≤ point then ['+'] else []) ++ (toString (point - 1)).toList

def decimal (n : FloatNotation) (d : Decimal) : List Char :=
  let digits := Nat.toDigits 10 d.digits
  -- where the decimal point stands, counted from the first digit
  let point := d.exponent + digits.length
  match n.positional with
  | none => n.places digits point
  | some (least, most) =>
    if least ≤ point && point ≤ most then n.places digits point else n.scientific digits point

def chars (n : FloatNotation) : Binary64 → List Char
  | .nan => ['N', 'a', 'N']
  | .infinite negative => (if negative then ['-'] else []) ++ ['i', 'n', 'f']
  | .finite negative significand exponent =>
    (if negative then ['-'] else []) ++
      (if significand == 0 then (if n.wholeFraction then ['0', '.', '0'] else ['0'])
       else n.decimal (shortest n.tie significand exponent))

def write (n : FloatNotation) (x : Float) : String := String.ofList (n.chars (.ofFloat x))

/-! ### Notations -/

/-- The notation of literals: all places from `0.0001` to below `10 ^ 16`, an exponent elsewhere, and
always a fraction or an exponent. -/
def literal : FloatNotation := ⟨some (-3, 16), true, false, .up⟩

/-- The notation for reading: all places whatever the size, and no fraction on whole numbers. -/
def plain : FloatNotation := ⟨none, false, false, .up⟩

/-- The notation of JSON documents: as for literals, but with all places from `0.00001`, with a plus
sign on exponents, and of two equally near decimals the even one. -/
def document : FloatNotation := ⟨some (-4, 16), true, true, .even⟩

end FloatNotation

end FixturePlan.Number
