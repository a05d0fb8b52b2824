import FixturePlan.Settings.Basic
import FixturePlan.Settings.Toml.Parser

/-!
# Reading settings

Settings from a TOML document. Every section and every setting may be missing, and names that are not
known are passed over as long as the numbers under them can be read, but a setting that is there has to
have the right form. A section may also be written as the array of its settings in order. A moment
counts as a table under a name that is not known.
-/

namespace FixturePlan

namespace Toml

/-! ### Single settings -/

/-- A setting of a section, by its name in a table or by its place in an array. The outer result says
whether the section has the right form. -/
def setting? (v : Toml) (place : Nat) (name : String) : Option (Option Toml) :=
  match v with
  | .table members => some (members.lookup name)
  | .array items => some items[place]?
  | .moment _ => some none
  | _ => none

/-- Refuse a section with a number that cannot be read under a name other than the given ones. -/
def checkOthers (known : List String) : Option Toml → Option Unit
  | some (.table members) => guard (areReadableMembers (members.filter (!known.contains ·.1)))
  | _ => some ()

/-- Read a setting, or take its usual value if it is missing. -/
def readSetting {α : Type} (section? : Option Toml) (place : Nat) (name : String)
    (read : Toml → Option α) (usual : α) : Option α :=
  match section? with
  | none => some usual
  | some v =>
    match v.setting? place name with
    | none => none
    | some none => some usual
    | some (some w) => read w

def text? : Toml → Option String
  | .text s => some s
  | _ => none

/-- A word of a choice: a text, or the only name of a table that has nothing under it. -/
def choice? : Toml → Option String
  | .text s => some s
  | .table [(name, .table [])] => some name
  | .table [(name, .array [])] => some name
  | _ => none

def bool? : Toml → Option Bool
  | .bool b => some b
  | _ => none

/-- A natural number of at most 64 bits. -/
def nat? : Toml → Option Nat
  | .int (.ofNat n) => if n < 0x10000000000000000 then some n else none
  | _ => none

def texts? : Toml → Option (List String)
  | .array items => items.mapM text?
  | _ => none

end Toml

/-! ### Words -/

def Inclusion.word : Inclusion → String
  | .keep => "keep"
  | .drop => "drop"
  | .existing => "existing"

def Inclusion.ofWord? (s : String) : Option Inclusion :=
  [Inclusion.keep, .drop, .existing].find? (·.word == s)

def UnresolvedPolicy.word : UnresolvedPolicy → String
  | .fail => "fail"
  | .warn => "warn"

def UnresolvedPolicy.ofWord? (s : String) : Option UnresolvedPolicy :=
  [UnresolvedPolicy.fail, .warn].find? (·.word == s)

/-! ### Sections

Every section names its settings twice, once as the names that are known and once in the order in which
an array gives them. -/

namespace Settings

open Toml

def readConnection (v : Option Toml) : Option ConnectionSettings := do
  checkOthers ["driver", "path", "schema"] v
  let usual := ConnectionSettings.standard
  return {
    driver := ← readSetting v 0 "driver" text? usual.driver
    path := ← readSetting v 1 "path" text? usual.path
    schema := ← readSetting v 2 "schema" text? usual.schema }

def readExtract (v : Option Toml) : Option ExtractSettings := do
  checkOthers ["tables", "exclude", "fetch_size"] v
  let usual := ExtractSettings.standard
  return {
    tables := ← readSetting v 0 "tables" texts? usual.tables
    exclude := ← readSetting v 1 "exclude" texts? usual.exclude
    fetchSize := ← readSetting v 2 "fetch_size" nat? usual.fetchSize }

def readResolve (v : Option Toml) : Option ResolveSettings := do
  checkOthers ["unresolved_required"] v
  let policy? (w : Toml) := w.choice? >>= UnresolvedPolicy.ofWord?
  return { unresolvedRequired := ← readSetting v 0 "unresolved_required" policy? .fail }

def readInclusion (v : Option Toml) : Option InclusionSettings := do
  checkOthers ["default", "drop", "existing"] v
  let usual := InclusionSettings.standard
  let inclusion? (w : Toml) := w.choice? >>= Inclusion.ofWord?
  return {
    fallback := ← readSetting v 0 "default" inclusion? usual.fallback
    drop := ← readSetting v 1 "drop" texts? usual.drop
    existing := ← readSetting v 2 "existing" texts? usual.existing }

def readNaming (v : Option Toml) : Option NamingSettings := do
  checkOthers ["singularize_entities"] v
  return { singularizeEntities := ← readSetting v 0 "singularize_entities" bool? true }

def ofToml? (v : Toml) : Option Settings := do
  checkOthers ["connection", "extract", "resolve", "inclusion", "naming"] (some v)
  return {
    connection := ← readConnection (← v.setting? 0 "connection")
    extract := ← readExtract (← v.setting? 1 "extract")
    resolve := ← readResolve (← v.setting? 2 "resolve")
    inclusion := ← readInclusion (← v.setting? 3 "inclusion")
    naming := ← readNaming (← v.setting? 4 "naming") }

/-- Read and check the settings of a document. -/
def ofText (s : String) : Except SettingsError Settings :=
  match Toml.parse? s >>= ofToml? with
  | none => .error (.malformed "")
  | some settings => settings.validate.map fun _ => settings

end Settings

end FixturePlan
