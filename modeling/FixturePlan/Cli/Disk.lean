import FixturePlan.Cli.Program
import FixturePlan.Database.Address
import FixturePlan.Database.Scan

/-!
# Files in memory

A file tree with a working directory and an environment, on which the program can run. A directory is
there if it holds a file or leads to the working directory.

Paths are followed part by part, and every part but the last has to be a directory. Only in the path of
a database may directories be missing that it leaves again.

A database fills its file with bytes that are no text, once there is anything in it.
-/

namespace FixturePlan.Cli

/-! ### Nodes -/

inductive FileContents where
  | text (s : String)
  | database (db : Database)
  deriving Repr

inductive DiskNode where
  | directory
  | file (contents : FileContents)
  deriving Repr

inductive PathError where
  | notFound
  | notDirectory
  | isDirectory
  | nameTooLong
  | notText
  deriving DecidableEq, Repr

namespace PathError

def message : PathError → String
  | .notFound => "No such file or directory (os error 2)"
  | .notDirectory => "Not a directory (os error 20)"
  | .isDirectory => "Is a directory (os error 21)"
  | .nameTooLong => "File name too long (os error 36)"
  | .notText => "stream did not contain valid UTF-8"

end PathError

/-! ### Paths -/

/-- A file tree. Paths are lists of names from the root. -/
structure Disk where
  files : List (List String × FileContents)
  workingDirectory : List String
  environment : List (String × String)
  deriving Repr

namespace Disk

def node? (d : Disk) (path : List String) : Option DiskNode :=
  match d.files.lookup path with
  | some contents => some (.file contents)
  | none =>
    if path.isPrefixOf d.workingDirectory || d.files.any (path.isPrefixOf ·.1) then some .directory
    else none

/-- The path that a path starts from. -/
def origin (d : Disk) (path : String) : List String :=
  if path.startsWith "/" then [] else d.workingDirectory

def step (current : List String) (part : String) : List String :=
  if part.isEmpty || part = "." then current
  else if part = ".." then current.dropLast
  else current ++ [part]

/-- Whether a name is longer than the 255 bytes that a directory can keep. -/
def isLongName (name : String) : Bool := name.utf8ByteSize > 255

def follow (d : Disk) (current : List String) : List String → Except PathError (List String)
  | [] => .ok current
  | part :: rest =>
    match d.node? current with
    | some .directory =>
      if isLongName part then .error .nameTooLong else follow d (step current part) rest
    | some (.file _) => .error .notDirectory
    | none => .error .notFound

/-- Follow a path that has been split into parts. No path is empty or has 4096 bytes. -/
def followParts (d : Disk) (path : String) (parts : List String) :
    Except PathError (List String) :=
  if path.isEmpty then .error .notFound
  else if path.utf8ByteSize > 4095 then .error .nameTooLong
  else d.follow (d.origin path) parts

/-- Where a path leads; there need not be anything yet. -/
def resolve (d : Disk) (path : String) : Except PathError (List String) :=
  d.followParts path (path.splitOn "/")

/-- Where a path leads that ends in a slash, without its last part. -/
def resolveParent (d : Disk) (path : String) : Except PathError (List String) :=
  let parts := ((path.splitOn "/").reverse.dropWhile (·.isEmpty)).reverse.dropLast
  d.followParts path (parts ++ ["."])

/-! ### Reading and writing -/

def find (d : Disk) (path : String) : Except PathError DiskNode :=
  (d.resolve path).bind fun place =>
    match d.node? place with
    | some node => .ok node
    | none => .error .notFound

def readText (d : Disk) (path : String) : Except PathError String :=
  match d.find path with
  | .error e => .error e
  | .ok .directory => .error .isDirectory
  | .ok (.file (.text s)) => .ok s
  | .ok (.file (.database db)) => if db.isBlank then .ok "" else .error .notText

def put (d : Disk) (place : List String) (contents : FileContents) : Disk :=
  { d with files := (place, contents) :: d.files.filter (·.1 != place) }

/-- Where a file can be written; a path that ends in a slash leads to none. -/
def writePlace (d : Disk) (path : String) : Except PathError (List String) :=
  if path.endsWith "/" then (d.resolveParent path).bind fun _ => .error .isDirectory
  else
    (d.resolve path).bind fun place =>
      match d.node? place with
      | some .directory => .error .isDirectory
      | _ => .ok place

def writeText (d : Disk) (path s : String) : Except PathError Disk :=
  (d.writePlace path).map fun place => d.put place (.text s)

/-! ### Databases -/

/-- One step along the path of a database. What it leads to may be missing, but it cannot be in a file
or have too long a name. -/
def databaseStep? (d : Disk) (current : List String) (part : String) : Option (List String) :=
  let next := step current part
  if next.length ≤ current.length then some next
  else
    match d.node? current with
    | some .directory => if isLongName part then none else some next
    | some (.file _) => none
    | none => some next

/-- Where the path of a database leads. Written out, no such path has more than 504 bytes. -/
def databasePlace? (d : Disk) (path : String) : Option (List String) := do
  let place ← (path.splitOn "/").foldlM d.databaseStep? (d.origin path)
  if ("/" ++ "/".intercalate place).utf8ByteSize ≤ 504 then some place else none

/-- Open the database at a place; none if this is impossible. -/
def openAt? (d : Disk) (access : Access) (place : List String) : Option (Source × Disk) :=
  match d.node? place with
  | some .directory => none
  | some (.file (.database db)) => some (db.source, d)
  | some (.file (.text s)) =>
    -- a single byte counts as no contents
    some (if s.utf8ByteSize ≤ 1 then Database.empty.source else .failing Database.notDatabase, d)
  | none =>
    match access, d.node? place.dropLast with
    | .create, some .directory => some (Database.empty.source, d.put place (.text ""))
    | _, _ => none

def open? (d : Disk) (address : Address) : Option (Source × Disk) :=
  if address.inMemory then some (Database.empty.source, d)
  else d.databasePlace? address.path >>= d.openAt? address.access

def openDatabase (d : Disk) (name : String) : Except SourceError (Source × Disk) :=
  match Address.ofText? name >>= d.open? with
  | some opened => .ok opened
  | none => .error (.openFailed name "unable to open database file")

/-! ### As a host -/

/-- Replace the state of a tree. -/
def commit {α ε : Type} (r : Except ε (α × Disk)) : StateM Disk (Except ε α) :=
  match r with
  | .error e => return .error e
  | .ok (a, d) => do
    set d
    return .ok a

def host : Host (StateM Disk) where
  envVar name := return (← get).environment.lookup name
  isThere path := return ((← get).find path).isOk
  readText path := return ((← get).readText path).mapError PathError.message
  writeText path s := do
    commit ((((← get).writeText path s).map fun d => ((), d)).mapError PathError.message)
  openDatabase path := do commit ((← get).openDatabase path)

end Disk

end FixturePlan.Cli
