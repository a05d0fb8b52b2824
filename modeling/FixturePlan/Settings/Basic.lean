import FixturePlan.Entity.Resolve
import FixturePlan.Plan.Inclusion
import FixturePlan.Settings.Expansion
import FixturePlan.Text.LetterCase
import FixturePlan.Text.Pattern.Machine
import FixturePlan.Text.Pattern.Parser

/-!
# Settings

What a run can be told: which database to open, what to extract, what to do about unresolved
references, which tables to include, and how to name entities. Everything has a usual value.

`Settings.validate` refuses settings that are well-formed but make no sense; of several faults it
names the first in the order of the checks.
-/

namespace FixturePlan

/-! ### Sections -/

structure ConnectionSettings where
  driver : String
  /-- The location, in which environment variables are expanded. -/
  path : String
  schema : String
  deriving DecidableEq, Repr

structure ExtractSettings where
  /-- The tables in order; without any, every table in creation order. -/
  tables : List String
  exclude : List String
  fetchSize : Nat
  deriving DecidableEq, Repr

structure ResolveSettings where
  unresolvedRequired : UnresolvedPolicy
  deriving DecidableEq, Repr

structure InclusionSettings where
  /-- The decision for tables that are not listed. -/
  fallback : Inclusion
  /-- The tables whose rows are dropped. -/
  drop : List String
  /-- The tables whose rows are there already. -/
  existing : List String
  deriving DecidableEq, Repr

structure NamingSettings where
  singularizeEntities : Bool
  deriving DecidableEq, Repr

structure Settings where
  connection : ConnectionSettings
  extract : ExtractSettings
  resolve : ResolveSettings
  inclusion : InclusionSettings
  naming : NamingSettings
  deriving DecidableEq, Repr

/-! ### Failures -/

inductive SettingsError where
  | fileNotFound (path : String)
  | unreadable (detail : String)
  /-- The text is not TOML, or a setting has the wrong form. -/
  | malformed (detail : String)
  | missingVariable (name : String)
  | unsupportedDriver (driver : String)
  | invalidPattern (pattern : String)
  | pathNotSet
  | fetchSizeZero
  | listedTwice (table : String)
  deriving DecidableEq, Repr

namespace SettingsError

def message : SettingsError → String
  | .fileNotFound path => s!"Config file not found: {path}"
  | .unreadable detail => s!"Failed to read config file: {detail}"
  | .malformed detail => s!"Failed to parse config file: {detail}"
  | .missingVariable name => s!"Missing environment variable: {name}"
  | .unsupportedDriver driver => s!"Unsupported driver: {driver}. Supported: sqlite"
  | .invalidPattern pattern => s!"Invalid exclude pattern: {pattern}"
  | .pathNotSet => "Invalid configuration: connection.path is not set"
  | .fetchSizeZero => "Invalid configuration: extract.fetch_size must be positive"
  | .listedTwice table =>
    s!"Invalid configuration: table {table} is listed under both inclusion.drop and " ++
      "inclusion.existing"

end SettingsError

/-! ### Connections -/

inductive DatabaseDriver where
  | sqlite
  deriving DecidableEq, Repr

namespace DatabaseDriver

def name : DatabaseDriver → String
  | .sqlite => "sqlite"

/-- The driver of a name, in any case. -/
def ofName (s : String) : Except SettingsError DatabaseDriver :=
  let lower := Text.lowercase s
  if lower = "sqlite" ∨ lower = "sqlite3" then .ok .sqlite else .error (.unsupportedDriver lower)

end DatabaseDriver

namespace ConnectionSettings

/-- The usual connection, which has no path yet. -/
def standard : ConnectionSettings := ⟨"sqlite", "", "main"⟩

def driverType (c : ConnectionSettings) : Except SettingsError DatabaseDriver :=
  DatabaseDriver.ofName c.driver

def resolvedPath (c : ConnectionSettings) (env : Environment) : Except SettingsError String :=
  if c.path.isEmpty then .error .pathNotSet
  else (expand env c.path).mapError .missingVariable

end ConnectionSettings

/-! ### Patterns and inclusion -/

namespace ExtractSettings

def standard : ExtractSettings := ⟨[], [], 500⟩

def readPatterns : List String → Except SettingsError (List Text.Pattern)
  | [] => .ok []
  | text :: rest =>
    match Text.Pattern.parse? text with
    | none => .error (.invalidPattern text)
    | some p => (readPatterns rest).map (p :: ·)

def excludePatterns (e : ExtractSettings) : Except SettingsError (List Text.Pattern) :=
  readPatterns e.exclude

end ExtractSettings

namespace InclusionSettings

/-- The usual inclusion, which keeps everything. -/
def standard : InclusionSettings := ⟨.keep, [], []⟩

/-- The decisions for the listed tables, of which a later one counts. -/
def rules (i : InclusionSettings) : List (String × Inclusion) :=
  i.drop.map (·, .drop) ++ i.existing.map (·, .existing)

/-- The first table that is listed twice with different decisions. -/
def conflict? (i : InclusionSettings) : Option String := i.drop.find? i.existing.contains

end InclusionSettings

/-! ### Checking

A check looks at one setting after the other and knows no schema, so that a name of a table can still turn
out to be unknown later. That a table is listed under two decisions is checked by name alone. -/

namespace Settings

def standard : Settings := ⟨.standard, .standard, ⟨.fail⟩, .standard, ⟨true⟩⟩

/-- Check that settings make sense. -/
def validate (s : Settings) : Except SettingsError Unit :=
  match s.connection.driverType with
  | .error e => .error e
  | .ok _ =>
    match s.extract.excludePatterns with
    | .error e => .error e
    | .ok _ =>
      if s.extract.fetchSize = 0 then .error .fetchSizeZero
      else
        match s.inclusion.conflict? with
        | some table => .error (.listedTwice table)
        | none => .ok ()

end Settings

end FixturePlan
