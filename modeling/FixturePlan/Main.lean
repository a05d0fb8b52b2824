import FixturePlan.Cli.Program
import FixturePlan.Database.Address
import FixturePlan.Database.Document
import FixturePlan.Database.Scan

/-!
# Entry point

The program on a real system. A database file holds the document of a database.
-/

namespace FixturePlan.Cli

def systemMessage : IO.Error → String
  | .noFileOrDirectory _ code detail | .inappropriateType (some _) code detail
  | .permissionDenied (some _) code detail => s!"{detail} (os error {code})"
  | e => toString e

/-- Whether a failure means that there is nothing at a path. -/
def isMissing : IO.Error → Bool
  | .noFileOrDirectory _ _ _ => true
  | _ => false

def readFile (path : String) : IO (Except IO.Error String) := (IO.FS.readFile path).toBaseIO

def writeFile (path s : String) : IO (Except IO.Error Unit) := (IO.FS.writeFile path s).toBaseIO

def openFile (name : String) : IO (Except SourceError Source) := do
  -- a missing file is created only if the address allows it
  let refused := fun detail => return .error (.openFailed name detail)
  let some address := Address.ofText? name | refused "unable to open database file"
  if address.inMemory then return .ok Database.empty.source
  match ← readFile address.path with
  | .ok s => return .ok (((Database.ofText? s).map (·.source)).getD (.failing Database.notDatabase))
  | .error e =>
    if isMissing e && address.access == .create then
      if let .ok () ← writeFile address.path "" then return .ok Database.empty.source
    refused (systemMessage e)

def systemHost : Host IO where
  envVar := fun name => (IO.getEnv name : BaseIO (Option String))
  isThere path := return match ← readFile path with
    | .ok _ => true
    | .error e => !isMissing e
  readText path := return (← readFile path).mapError systemMessage
  writeText path s := return (← writeFile path s).mapError systemMessage
  openDatabase := openFile

end FixturePlan.Cli

open FixturePlan.Cli in
/-- Run the program with the arguments of the process. Warnings go to the error output. -/
def main (args : List String) : IO UInt32 := do
  let outcome ← FixturePlan.Cli.run systemHost args
  unless (← IO.getEnv "RUST_LOG") = some "off" do
    for w in outcome.warnings do
      IO.eprintln s!"warning: {w.message}"
  IO.print outcome.out
  IO.eprint outcome.err
  return outcome.exitCode.toUInt32
