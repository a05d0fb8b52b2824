/-!
# Type codes

The numbers under which drivers report the type of a column.
-/

namespace FixturePlan

/-- The code of a column type. -/
abbrev TypeCode := Int

namespace TypeCode

def bit : TypeCode := -7
def tinyInt : TypeCode := -6
def bigInt : TypeCode := -5
def char : TypeCode := 1
def numeric : TypeCode := 2
def decimal : TypeCode := 3
def integer : TypeCode := 4
def smallInt : TypeCode := 5
def float : TypeCode := 6
def real : TypeCode := 7
def double : TypeCode := 8
def varChar : TypeCode := 12
def boolean : TypeCode := 16
def date : TypeCode := 91
def time : TypeCode := 92
def timestamp : TypeCode := 93
def other : TypeCode := 1111
def blob : TypeCode := 2004
def clob : TypeCode := 2005

/-- Whether values of a type have a precision and a scale. -/
def isNumeric (code : TypeCode) : Bool :=
  [tinyInt, smallInt, integer, bigInt, float, real, double, numeric, decimal].contains code

/-- Whether a type holds truth values, which drivers may hand over as numbers. -/
def isTruth (code : TypeCode) : Bool := code == boolean || code == bit

end TypeCode

end FixturePlan
