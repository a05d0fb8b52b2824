import FixturePlan.Cli.Help
import FixturePlan.Cli.Summary
import FixturePlan.Planner
import FixturePlan.Settings.Reader

/-!
# The program

What the program does with its arguments. All that it needs of the system it runs on is collected in a
`Host`, so that the same program runs on a real system and on files held in memory.

The settings come from the file that is named by the option, by the environment, or by convention: in
the working directory, or else among the settings of the user. Without any file they are the usual
ones.
-/

namespace FixturePlan.Cli

/-! ### Hosts -/

/-- A system that programs run on. -/
structure Host (m : Type → Type) where
  envVar : String → m (Option String)
  isThere : String → m Bool
  readText : String → m (Except String String)
  /-- Write a file anew, or say why this is impossible. -/
  writeText : String → String → m (Except String Unit)
  /-- Open a database file, which is created if it is missing. -/
  openDatabase : String → m (Except SourceError Source)

/-! ### Outcomes

A failure is reported and gives exit code 1, with one exception: a run that asks for more room than there
can be is broken off, with exit code 101. Wrong arguments give exit code 2. -/

/-- Why a program ends without success. -/
structure Failure where
  exitCode : Nat
  text : String
  deriving DecidableEq, Repr

namespace Failure

def reported (message : String) : Failure := ⟨1, s!"Error: {message}"⟩

/-- What is left to see of a run that fails: a report, or the last words of a program that is ended. -/
def ofRun (e : RunError) : Failure := if e.isCrash then ⟨101, e.message⟩ else reported e.message

end Failure

structure Outcome where
  exitCode : Nat
  out : String
  err : String
  /-- What there is to say besides. -/
  warnings : List Warning
  deriving DecidableEq, Repr

namespace Outcome

def success (out : String) : Outcome := ⟨0, out, "", []⟩

def failure (f : Failure) : Outcome := ⟨f.exitCode, "", f.text ++ "\n", []⟩

/-- The outcome of wrong arguments. -/
def misuse : Outcome := ⟨2, "", "For more information, try '--help'.\n", []⟩

/-- The outcome of a report whose value is the output. -/
def ofReport (r : Report Failure String) : Outcome :=
  match r.result with
  | .ok out => { success out with warnings := r.warnings }
  | .error f => { failure f with warnings := r.warnings }

end Outcome

section

variable {m : Type → Type} [Monad m] (host : Host m)

/-! ### Settings -/

def settingsFromFile (path : String) : m (Except SettingsError Settings) := do
  if ← host.isThere path then
    match ← host.readText path with
    | .error detail => return .error (.unreadable detail)
    | .ok text => return Settings.ofText text
  else return .error (.fileNotFound path)

def userDirectory : m (Option String) := do
  match ← host.envVar "XDG_CONFIG_HOME" with
  | some directory => if directory.startsWith "/" then return some directory
  | none => pure ()
  match ← host.envVar "HOME" with
  | some home => return if home.isEmpty then none else some (home ++ "/.config")
  | none => return none

/-- The files in which settings are looked for, without those that are not there. -/
def conventionalFiles : m (List String) := do
  let user := (← userDirectory host).map (· ++ "/fixgraph/config.toml")
  ("fixgraph.toml" :: user.toList).filterM host.isThere

/-- The settings to use where no option names a file. -/
def usualSettings : m (Except SettingsError Settings) := do
  -- a file that the environment names has to be there, unlike one that is found by convention
  match ← host.envVar "FIXGRAPH_CONFIG" with
  | some path => settingsFromFile host path
  | none =>
    match ← conventionalFiles host with
    | path :: _ => settingsFromFile host path
    | [] => return .ok .standard

def loadSettings (i : Invocation) : m (Except SettingsError Settings) := do
  let loaded ← match i.config with
    | some path => settingsFromFile host path
    | none => usualSettings host
  return loaded.map fun s =>
    { s with connection := { s.connection with path := i.database.getD s.connection.path } }

/-! ### Databases -/

/-- The variables that a path mentions, with their values. -/
def environmentOf (path : String) : m Environment := do
  let values ← (Expansion.variableNames path.toList).mapM fun name => do
    return (name, ← host.envVar name)
  return fun name => (values.lookup name).join

def connect (c : ConnectionSettings) : m (Except RunError Source) := do
  let env ← environmentOf host c.path
  match c.driverType.bind fun _ => c.resolvedPath env with
  | .error e => return .error (.settings e)
  | .ok path => return (← host.openDatabase path).mapError RunError.source

/-! ### Commands -/

def deliver (p : Plan) : Option String → m (Except Failure String)
  | none => return .ok (p.toJson.pretty ++ "\n")
  | some path => do
    match ← host.writeText path p.toJson.pretty with
    | .ok () => return .ok s!"Wrote {p.order.length} entities to {path}\n"
    | .error detail => return .error (.reported s!"cannot write '{path}': {detail}")

def summarise (planner : Planner) (source : Source) : Report RunError String :=
  (planner.inspect source).andThen fun (s, joins) =>
    -- for the sake of its warning: the summary works the order out again
    s.reportCreationOrder.andThen fun _ => .value (schemaSummary s joins)

def execute (i : Invocation) (settings : Settings) (source : Source) :
    m (Report Failure String) := do
  let planner := Planner.standard settings
  match i.command with
  | .schema => return (summarise planner source).mapError Failure.ofRun
  | .order =>
    return ((planner.runConfigured source).andThen fun p => .value (orderSummary p)).mapError
      Failure.ofRun
  | .plan =>
    let r := planner.runConfigured source
    match r.result with
    | .error e => return ⟨r.warnings, .error (.ofRun e)⟩
    | .ok p => return ⟨r.warnings, ← deliver host p i.output⟩

def invoke (i : Invocation) : m Outcome := do
  match ← loadSettings host i with
  | .error e => return .failure ⟨1, s!"Configuration error: {e.message}"⟩
  | .ok settings =>
    match ← connect host settings.connection with
    | .error e => return .failure (.reported e.message)
    | .ok source => return .ofReport (← execute host i settings source)

/-- Run the program. -/
def run (args : List String) : m Outcome :=
  match parseArguments args with
  | .error (.help topic) => return .success (Help.text topic)
  | .error .version => return .success versionText
  | .error .misuse => return .misuse
  | .ok i => invoke host i

end

end FixturePlan.Cli
