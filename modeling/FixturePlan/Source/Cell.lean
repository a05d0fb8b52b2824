import FixturePlan.Json.Parser

/-!
# Cells and rows

The values that a database hands over and the rows they come in. `Cell.shown` is their form for
reading; `Cell.toJson` and `Cell.ofJson?` are their form in documents, where floats are written as
text so that none is lost.
-/

namespace FixturePlan

/-! ### Cells -/

inductive Cell where
  | null
  | integer (n : Int)
  | real (x : Float)
  | text (s : String)
  | blob (bytes : List UInt8)
  | boolean (b : Bool)
  deriving DecidableEq, Repr

namespace Cell

def isNull : Cell → Bool
  | .null => true
  | _ => false

/-- The form of a value for reading. -/
def shown : Cell → String
  | .null => "NULL"
  | .integer n => toString n
  | .real x => Number.FloatNotation.plain.write x
  | .text s => s
  | .blob bytes => s!"<{bytes.length} bytes>"
  | .boolean b => if b then "true" else "false"

/-- The form of a value in a document. -/
def toJson : Cell → Json
  | .null => .null
  | .integer n => .int n
  -- an object with one member, so that it is not taken for a number or a text
  | .real x => .object [("real", .text (Number.FloatNotation.literal.write x))]
  | .text s => .text s
  | .blob bytes => .object [("blob", .list (fun b => .nat b.toNat) bytes)]
  | .boolean b => .bool b

def byte? (v : Json) : Option UInt8 := do
  let n ← v.nat?
  guard (n < 256)
  return n.toUInt8

def ofJson? : Json → Option Cell
  | .null => some .null
  | .bool b => some (.boolean b)
  | .int n => some (.integer n)
  | .text s => some (.text s)
  | .object [("real", .text s)] => (Number.readFloat? s.toList).map .real
  | .object [("blob", .array items)] => (items.mapM byte?).map .blob
  | _ => none

end Cell

/-! ### Rows -/

/-- A row of a scan: the column names that are reported, and a value for each. -/
structure Row where
  columns : List String
  cells : List Cell
  deriving DecidableEq, Repr

namespace Row

def cell? (r : Row) (position : Nat) : Option Cell := r.cells[position]?

/-- The value of the first column reported under exactly this name. -/
def get? (r : Row) (column : String) : Option Cell :=
  (r.columns.findIdx? (· == column)).bind r.cell?

def pairs (r : Row) : List (String × Cell) := r.columns.zip r.cells

end Row

end FixturePlan
