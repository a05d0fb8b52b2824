import FixturePlan.Number.Digits
import FixturePlan.Source.TypeCode
import FixturePlan.Text.LetterCase
import FixturePlan.Text.Pattern.Machine

/-!
# Declared types

The types that columns of a database are declared with. A declaration is free text; what the database
takes from it is an affinity, by the words that occur in it. The common names have type codes of
their own, and every other name has the code of its affinity.
-/

namespace FixturePlan

/-! ### Affinities

The kind of value that a column prefers. -/

inductive Affinity where
  | text
  | numeric
  | integer
  | real
  | blob
  deriving DecidableEq, Repr

namespace Affinity

def mentions : List Char → (word : String) → Bool
  | [], word => word.isEmpty
  | c :: rest, word => word.toList.isPrefixOf (c :: rest) || mentions rest word

/-- The affinity of a declared type in capitals, by the first of these words that occurs in it. -/
def ofCapitals (capitals : String) : Affinity :=
  let cs := capitals.toList
  if mentions cs "INT" then .integer
  else if ["CHAR", "CLOB", "TEXT"].any (mentions cs) then .text
  else if cs.isEmpty || mentions cs "BLOB" then .blob
  else if ["REAL", "FLOA", "DOUB"].any (mentions cs) then .real
  else .numeric

def code : Affinity → TypeCode
  | .integer => TypeCode.integer
  | .text => TypeCode.varChar
  | .blob => TypeCode.blob
  | .real => TypeCode.double
  | .numeric => TypeCode.numeric

end Affinity

/-! ### Declared types

The database reports a declared type as it is written but for the six standard names. Precision and scale
are not reported: they are read off the text in parentheses. -/

namespace DeclaredType

def affinity (declared : String) : Affinity := .ofCapitals (Text.asciiUppercase declared)

/-- The standard names, which are reported in capitals. -/
def standardNames : List String := ["ANY", "BLOB", "INT", "INTEGER", "REAL", "TEXT"]

def reported (declared : String) : String :=
  let name := Text.trim declared
  let capitals := Text.asciiUppercase name
  if standardNames.contains capitals then capitals else name

/-- A declared type as a view reports it, for which every column has a type. -/
def reportedByView (declared : String) : String :=
  let name := reported declared
  if name.isEmpty then "BLOB" else name

/-- The name of a declared type in capitals, without what stands in parentheses behind it. -/
def baseName (declared : String) : String :=
  Text.trim (String.ofList ((Text.asciiUppercase declared).toList.takeWhile (· != '(')))

def namedCodes : List (String × TypeCode) :=
  [("BOOLEAN", .boolean), ("BOOL", .boolean), ("BIT", .bit), ("DATE", .date), ("TIME", .time),
   ("DATETIME", .timestamp), ("TIMESTAMP", .timestamp), ("BIGINT", .bigInt),
   ("SMALLINT", .smallInt), ("TINYINT", .tinyInt), ("DECIMAL", .decimal), ("NUMERIC", .numeric),
   ("FLOAT", .float), ("REAL", .real), ("DOUBLE", .double), ("DOUBLE PRECISION", .double),
   ("CHAR", .char), ("CHARACTER", .char), ("NCHAR", .char), ("CLOB", .clob)]

def code (declared : String) : TypeCode :=
  let base := baseName declared
  -- the parentheses are gone by now, so a word inside them gives no affinity
  (namedCodes.lookup base).getD (Affinity.ofCapitals base).code

open Text Text.Pattern in
/-- One or two numbers in parentheses, which are kept as the groups 1 and 2. -/
def argumentsPattern : Pattern :=
  let blanks : Pattern := .repeated (.chars .blanks) 0 none true
  let number (n : Nat) : Pattern := .group n (.repeated (.chars .digits) 1 none true)
  let second : Pattern :=
    .repeated (.sequence (.chars (.single ',')) (.sequence blanks (.sequence (number 2) blanks)))
      0 (some 1) true
  .sequence (.chars (.single '('))
    (.sequence blanks (.sequence (number 1) (.sequence blanks (.sequence second
      (.chars (.single ')'))))))

/-- A number of at most 32 bits in ASCII digits. -/
def readNumber (s : String) : Option Nat := (Number.digits? 10 s.toList).filter (· < Nat.pow 2 32)

/-- The precision and the scale of a declared type, of numeric types only. -/
def arguments (declared : String) : Option Nat × Option Nat :=
  if (code declared).isNumeric then
    match argumentsPattern.find? declared with
    | none => (none, none)
    | some found => (found.group? 1 >>= readNumber, found.group? 2 >>= readNumber)
  else (none, none)

end DeclaredType

end FixturePlan
