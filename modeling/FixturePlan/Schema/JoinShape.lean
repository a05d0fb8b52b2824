import FixturePlan.Strategy.Naming

/-!
# Join tables

A join table has nothing but its primary key and its foreign keys. For each table that it leads to,
its rows can be constructed from there: that end is `this`, and every other end is a parameter.

Of several keys to one table only the first is taken as the end where `this` stands.
-/

namespace FixturePlan

/-! ### Constructors -/

/-- An argument of the constructor of a join row. -/
inductive ConstructorArg where
  /-- The row from which the join row is constructed. -/
  | this
  | param (name : String) (table : TableId) (foreignKey : ForeignKeyId)
  deriving DecidableEq, Repr

namespace ConstructorArg

def shown : ConstructorArg → String
  | .this => "this"
  | .param name _ _ => name

end ConstructorArg

/-- The constructors of join rows, by the table they start from and the join table. -/
abbrev JoinShapes := SortedMap TableId (SortedMap TableId (List ConstructorArg))

namespace JoinShapes

def forAnchor? (shapes : JoinShapes) (anchor : TableId) :
    Option (SortedMap TableId (List ConstructorArg)) := shapes.find? anchor

def shape? (shapes : JoinShapes) (anchor join : TableId) : Option (List ConstructorArg) :=
  (shapes.find? anchor).bind (·.find? join)

/-- All constructors, in order of the tables they start from and of the join tables. -/
def all (shapes : JoinShapes) : List (TableId × TableId × List ConstructorArg) :=
  shapes.entries.flatMap fun (anchor, joins) =>
    joins.entries.map fun (join, args) => (anchor, join, args)

/-- Record a constructor, unless there already is one for the same two tables. -/
def record (shapes : JoinShapes) (anchor join : TableId) (args : List ConstructorArg) :
    JoinShapes :=
  shapes.insert anchor (((shapes.find? anchor).getD ∅).insertIfNew join args)

end JoinShapes

namespace Schema

/-! ### Join tables -/

/-- Whether a table is a join table: it has a primary key and leaves by some foreign key, and each
of its columns belongs to both where the primary key has several columns, to either where it has
one. -/
def isJoinTable (s : Schema) (t : Table) : Bool :=
  let keys := s.outgoing t
  !t.primaryKey.isEmpty && !t.outgoing.isEmpty &&
    (List.range t.columns.length).all fun column =>
      let inKey := t.inPrimaryKey column
      let inForeign := keys.any (·.hasSource column)
      if t.primaryKey.length > 1 then inKey && inForeign else inKey || inForeign

def joinTables (s : Schema) : List Table := s.tables.filter s.isJoinTable

/-- The argument for a foreign key of a join table, if the constructor starts from the end of
`anchor`. -/
def argument (s : Schema) (naming : Naming) (anchor key : ForeignKey) : ConstructorArg :=
  if key.id = anchor.id then .this else .param (naming.parameterName s key) key.target key.id

def recordJoin (s : Schema) (naming : Naming) (shapes : JoinShapes) (join : Table) : JoinShapes :=
  let keys := s.outgoing join
  -- every key in turn is the end to start from; the first to reach a table is the one recorded
  keys.foldl (fun acc anchor => acc.record anchor.target join.id (keys.map (s.argument naming anchor)))
    shapes

def joinShapes (s : Schema) (naming : Naming) : JoinShapes :=
  s.joinTables.foldl (s.recordJoin naming) ∅

end Schema

end FixturePlan
