import FixturePlan.Entity.Extract
import FixturePlan.Entity.Resolve
import FixturePlan.Plan.Basic
import FixturePlan.Schema.Build
import FixturePlan.Schema.CreationOrder
import FixturePlan.Settings.Basic

/-!
# Runs

A run inspects a source, extracts the rows of its tables, matches their references and orders the
resulting entities:

    Source ──build──▶ Schema ──extract──▶ EntitySet ──resolve──▶ EntitySet ──order, include──▶ Plan

Each stage ends the run with its first failure; the warnings of all stages are kept in order.
-/

namespace FixturePlan

/-! ### Failures -/

inductive RunError where
  | settings (cause : SettingsError)
  | source (cause : SourceError)
  | schema (cause : SchemaError)
  | extract (cause : ExtractError)
  | resolve (cause : ResolveError)
  | plan (cause : PlanError)
  | unknownTable (inSchema table : String)
  deriving DecidableEq, Repr

namespace RunError

def message : RunError → String
  | .settings cause => cause.message
  | .source cause => cause.message
  | .schema cause => cause.message
  | .extract cause => cause.message
  | .resolve cause => cause.message
  | .plan cause => cause.message
  | .unknownTable place name => s!"table not found in schema {place}: {name}"

/-- Whether a failure ends the program in place of being reported. -/
def isCrash : RunError → Bool
  | .source cause | .schema (.source cause) | .extract (.source cause) => cause.isCrash
  | _ => false

end RunError

/-! ### Stages

The settings name tables, and names are looked up in the schema that was inspected: a table that was left
out of it is as unknown as one that does not exist. -/

structure Planner where
  settings : Settings
  strategies : Strategies

namespace Planner

def standard (settings : Settings) : Planner :=
  ⟨settings, .standard settings.naming.singularizeEntities⟩

variable (p : Planner)

/-- Build the schema and classify its join tables. -/
def inspect (source : Source) : Report RunError (Schema × JoinShapes) :=
  ((Report.ofExcept p.settings.extract.excludePatterns).mapError RunError.settings).andThen
    fun exclude =>
      ((Schema.build source exclude p.settings.connection.schema).mapError
        RunError.schema).andThen fun s => .value (s, s.joinShapes p.strategies.naming)

def findTable (s : Schema) (name : String) : Except RunError TableId :=
  match s.findByName? name with
  | some id => .ok id
  | none => .error (.unknownTable s.name name)

def findTables (s : Schema) : List String → Except RunError (List TableId)
  | [] => .ok []
  | name :: rest =>
    match findTable s name with
    | .error e => .error e
    | .ok id => (findTables s rest).map (id :: ·)

/-- The tables to extract, in order: those that are listed, or all in creation order. -/
def extractionOrder (s : Schema) : Report RunError (List TableId) :=
  if p.settings.extract.tables.isEmpty then s.reportCreationOrder
  else .ofExcept (findTables s p.settings.extract.tables)

/-- Add decisions for tables by their names. -/
def addRules (s : Schema) : TableRules → List (String × Inclusion) → Except RunError TableRules
  | rules, [] => .ok rules
  | rules, (name, decision) :: rest =>
    match findTable s name with
    | .error e => .error e
    | .ok id => addRules s (rules.decideFor id decision) rest

def tableRules (s : Schema) : Except RunError TableRules :=
  addRules s (.always p.settings.inclusion.fallback) p.settings.inclusion.rules

def extractor (source : Source) (s : Schema) : Extractor :=
  { schema := s, source, strategies := p.strategies, fetchSize := p.settings.extract.fetchSize }

/-- Extract, resolve, order and decide. -/
def plan (source : Source) (s : Schema) (joins : JoinShapes) (decide : Decider) :
    Report RunError Plan :=
  (p.extractionOrder s).andThen fun order =>
    ((((p.extractor source s).extract order).toReport).mapError RunError.extract).andThen
      fun extraction =>
        (((extraction.entities.resolve s p.settings.resolve.unresolvedRequired).toReport).mapError
          RunError.resolve).andThen fun resolved =>
            (Plan.build s joins resolved.entities decide).mapError RunError.plan

/-! ### Whole runs -/

/-- Run all stages with a decision about every entity. -/
def run (source : Source) (decide : Decider) : Report RunError Plan :=
  (p.inspect source).andThen fun (s, joins) => p.plan source s joins decide

/-- Run all stages with the decisions that the settings ask for. -/
def runConfigured (source : Source) : Report RunError Plan :=
  (p.inspect source).andThen fun (s, joins) =>
    -- a rule about an unknown table ends the run before any row is read
    (Report.ofExcept (p.tableRules s)).andThen fun rules => p.plan source s joins rules.decide

end Planner

end FixturePlan
