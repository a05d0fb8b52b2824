import FixturePlan.Schema.Basic

/-!
# Target types

The type that the values of a column have in the generated fixtures.
-/

namespace FixturePlan

namespace TargetType

/-- The target type of a fixed-point column: a whole number without a scale is an integer wide
enough for its digits. -/
def ofPrecision (precision scale : Option Nat) : String :=
  match precision with
  | some p =>
    -- nine digits always fit into 32 bits, and eighteen into 64
    if scale.getD 0 != 0 then "Decimal"
    else if p ≤ 9 then "i32"
    else if p ≤ 18 then "i64"
    else "Decimal"
  | none => "Decimal"

/-! A type is found by the code of the column alone, except for fixed-point numbers, whose digits decide. -/

def ofCode (code : TypeCode) (precision scale : Option Nat) : String :=
  if code.isTruth then "bool"
  else if [TypeCode.tinyInt, .smallInt, .integer].contains code then "i32"
  else if code = .bigInt then "i64"
  else if code = .real then "f32"
  else if code = .float ∨ code = .double then "f64"
  else if code = .numeric ∨ code = .decimal then ofPrecision precision scale
  else if code = .date then "NaiveDate"
  else if code = .time then "NaiveTime"
  else if code = .timestamp then "NaiveDateTime"
  else if code = .blob then "Vec<u8>"
  else "String"

def ofColumn (c : Column) : String := ofCode c.dataType.code c.dataType.precision c.dataType.scale

/-- Whether a target type is a plain number. -/
def isNumeric (target : String) : Bool := ["i32", "i64", "f32", "f64", "Decimal"].contains target

/-- Whether a target type is a whole number. -/
def isWhole (target : String) : Bool := ["i32", "i64"].contains target

end TargetType

end FixturePlan
