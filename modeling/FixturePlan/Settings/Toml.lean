import FixturePlan.Number.Reading

/-!
# TOML values

The values of TOML documents, and the tree in which a document is collected line by line. A table of
the tree remembers how it came about, as that decides what may still be added to it: a table may have
only one header, and dotted keys may not reach into a table that has one. A number that is too large
stands in a document as well as any other, but nothing can be read from it.
-/

namespace FixturePlan

/-! ### Values -/

inductive Toml where
  | text (s : String)
  | int (n : Int)
  | real (x : Float)
  /-- A number of more than 128 bits, or one that is greater than every float. -/
  | huge
  | bool (b : Bool)
  /-- A date, a time of day, or both, as it is written. -/
  | moment (s : String)
  | array (items : List Toml)
  | table (members : List (String × Toml))
  deriving Repr, Inhabited

namespace Toml

/-- The numbers of at most 128 bits, with or without a sign. -/
def ofInt (n : Int) : Toml :=
  if -(0x80000000000000000000000000000000 : Int) ≤ n ∧ n < 0x100000000000000000000000000000000 then
    .int n
  else .huge

/-- The floats that are numbers. -/
def ofFloat (x : Float) : Toml := if x.isFinite then .real x else .huge

mutual

/-- Whether all numbers of a value can be read. -/
def isReadable : Toml → Bool
  | .huge => false
  | .array items => areReadable items
  | .table members => areReadableMembers members
  | _ => true

def areReadable : List Toml → Bool
  | [] => true
  | v :: rest => isReadable v && areReadable rest

def areReadableMembers : List (String × Toml) → Bool
  | [] => true
  | (_, v) :: rest => isReadable v && areReadableMembers rest

end

/-! ### The tree

A key with two parts puts its value into a table that dotted keys made; with more parts it may also pass
through tables that are only implied. -/

inductive Origin where
  /-- By the header of a table inside it. -/
  | implied
  /-- By its own header. -/
  | header
  /-- By a dotted key. -/
  | dotted
  deriving DecidableEq, Repr

inductive Node where
  | value (v : Toml)
  | table (origin : Origin) (members : List (String × Node))
  /-- Tables under one repeated header, latest first. -/
  | tables (elements : List (List (String × Node)))
  deriving Repr, Inhabited

abbrev Members := List (String × Node)

namespace Node

def put (name : String) (node : Node) : Members → Members
  | [] => [(name, node)]
  | (n, old) :: rest => if n = name then (n, node) :: rest else (n, old) :: put name node rest

/-- Give a value to a dotted key, counted from a table. The key may pass through tables that have no
header and through the latest element of a repeated table, but the table that it puts the value into
has to be one that dotted keys made. -/
def setDotted (v : Toml) : (key : List String) → Members → Option Members
  | [], _ => none
  | [name], ms =>
    match ms.lookup name with
    | none => some (put name (.value v) ms)
    | some _ => none
  | name :: more, ms =>
    -- whether the table of this name is not yet the one that gets the value
    let passing := 2 ≤ more.length
    match ms.lookup name with
    | none => (setDotted v more []).map fun inner => put name (.table .dotted inner) ms
    | some (.table origin inner) =>
      if origin = .dotted || (passing && origin = .implied) then
        (setDotted v more inner).map fun inner' => put name (.table origin inner') ms
      else none
    | some (.tables (latest :: earlier)) =>
      if passing then
        (setDotted v more latest).map fun latest' => put name (.tables (latest' :: earlier)) ms
      else none
    | some _ => none

/-- Apply a function to the table at the end of a path. A repeated table is entered at its latest
element, and tables that are missing are implied. -/
def atPath (f : Members → Option Members) : (path : List String) → Members → Option Members
  | [], ms => f ms
  | name :: more, ms =>
    match ms.lookup name with
    | none => (atPath f more []).map fun inner => put name (.table .implied inner) ms
    | some (.table origin inner) =>
      (atPath f more inner).map fun inner' => put name (.table origin inner') ms
    | some (.tables (latest :: earlier)) =>
      (atPath f more latest).map fun latest' => put name (.tables (latest' :: earlier)) ms
    | some _ => none

def openTable (name : String) (ms : Members) : Option Members :=
  match ms.lookup name with
  | none => some (put name (.table .header []) ms)
  | some (.table .implied inner) => some (put name (.table .header inner) ms)
  | some _ => none

/-- Begin the next element of a repeated table. -/
def openElement (name : String) (ms : Members) : Option Members :=
  match ms.lookup name with
  | none => some (put name (.tables [[]]) ms)
  | some (.tables elements) => some (put name (.tables ([] :: elements)) ms)
  | some _ => none

mutual

def finish : Node → Toml
  | .value v => v
  | .table _ ms => .table (finishMembers ms)
  -- the latest element comes first in the tree and last in the array
  | .tables elements => .array (finishElements elements).reverse

def finishMembers : Members → List (String × Toml)
  | [] => []
  | (name, node) :: rest => (name, finish node) :: finishMembers rest

def finishElements : List Members → List Toml
  | [] => []
  | ms :: rest => .table (finishMembers ms) :: finishElements rest

end

end Node

end Toml

end FixturePlan
