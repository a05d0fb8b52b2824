import FixturePlan.Number.Binary64
import FixturePlan.Number.Digits

/-!
# Reading numbers

The texts that denote a float: an optional sign, then digits with an optional point and an optional
exponent, or one of the words `inf`, `infinity` and `nan` in any case. At least one digit stands
before the exponent, and at least one in it.
-/

namespace FixturePlan.Number

/-! ### Parts of a number -/

/-- Cut off a sign; the flag says whether it is a minus. -/
def splitSign : List Char → Bool × List Char
  | '-' :: rest => (true, rest)
  | '+' :: rest => (false, rest)
  | rest => (false, rest)

/-- An exponent that ends the text: `e`, an optional sign and digits. No text is the exponent 0. -/
def readExponent : List Char → Option Int
  | [] => some 0
  | c :: rest =>
    if c == 'e' || c == 'E' then
      let (negative, rest) := splitSign rest
      let (digits, rest) := splitDigits rest
      if digits.isEmpty || !rest.isEmpty then none
      else some (if negative then -(ofDigits digits : Int) else ofDigits digits)
    else none

/-- A number without sign, in digits: all its digits, and the power of ten they count. -/
def readMagnitude (cs : List Char) : Option (Nat × Int) := do
  let (whole, rest) := splitDigits cs
  let (fraction, rest) := match rest with
    | '.' :: r => splitDigits r
    | r => ([], r)
  guard (!(whole.isEmpty && fraction.isEmpty))
  let exponent ← readExponent rest
  return (ofDigits (whole ++ fraction), exponent - fraction.length)

/-! ### Floats -/

/-- The float nearest to `digits * 10 ^ exponent`. Powers beyond the range of floats are cut off, as
they give zero or infinity for every number of digits at hand. -/
def nearestFloat (digits : Nat) (exponent : Int) : Float :=
  if digits == 0 then 0.0
  else
    let size : Int := (Nat.toDigits 10 digits).length + exponent
    if size > 400 then Float.ofScientific 1 false 400
    else if size < -400 then 0.0
    else if exponent < 0 then Float.ofScientific digits true (-exponent).toNat
    else Float.ofScientific digits false exponent.toNat

def readUnsigned (cs : List Char) : Option Float :=
  let word := cs.map Char.toLower
  if word == ['i', 'n', 'f'] || word == ['i', 'n', 'f', 'i', 'n', 'i', 't', 'y'] then
    some (1.0 / 0.0)
  else if word == ['n', 'a', 'n'] then some (0.0 / 0.0)
  else (readMagnitude cs).map fun (digits, exponent) => nearestFloat digits exponent

def readFloat? (cs : List Char) : Option Float :=
  let (negative, rest) := splitSign cs
  (readUnsigned rest).map fun x => if negative then -x else x

def denotesFloat (cs : List Char) : Bool := (readFloat? cs).isSome

end FixturePlan.Number
