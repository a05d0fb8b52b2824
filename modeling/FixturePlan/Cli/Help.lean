import FixturePlan.Cli.Arguments

/-!
# Help

The texts that explain the command line: what it is for, how it is used, and its commands and options
in columns.
-/

namespace FixturePlan.Cli

def programName : String := "fixgraph"

def versionText : String := programName ++ " 0.1.0\n"

namespace CommandName

def word : CommandName → String
  | .schema => "schema"
  | .plan => "plan"
  | .order => "order"

def purpose : CommandName → String
  | .schema => "Summarise tables, foreign keys and join tables"
  | .plan => "Extract, resolve and order entities; print the plan as JSON"
  | .order => "Print entity labels in creation order"

end CommandName

namespace Help

/-! ### Rows of options and commands -/

def helpPurpose : String := "Print this message or the help of the given subcommand(s)"

/-- Two columns, the second at one place in all lines. -/
def table (rows : List (String × String)) : String :=
  let width := ((rows.map fun r => r.1.length).max?).getD 0
  String.join (rows.map fun (left, right) =>
    let padding := String.ofList (List.replicate (width - left.length + 2) ' ')
    "  " ++ left ++ padding ++ right ++ "\n")

def commands : List (String × String) :=
  [CommandName.schema, .plan, .order].map (fun c => (c.word, c.purpose)) ++ [("help", helpPurpose)]

def configRow : String × String :=
  ("-c, --config <CONFIG>",
    "Config file (defaults to FIXGRAPH_CONFIG, ./fixgraph.toml, then the user config dir)")

def outputRow : String × String :=
  ("-o, --output <OUTPUT>", "Write the plan to a file instead of stdout")

/-- The other options that every command has. -/
def commonRows : List (String × String) :=
  [("-d, --database <DATABASE>", "Database path, overriding connection.path"),
   ("-v, --verbose", "Log at debug level unless RUST_LOG says otherwise"),
   ("-h, --help", "Print help")]

/-- The options at a place. -/
def options : Site → List (String × String)
  | none => configRow :: commonRows ++ [("-V, --version", "Print version")]
  | some .plan => configRow :: outputRow :: commonRows
  | some _ => configRow :: commonRows

/-! ### Texts -/

def text : Topic → String
  | .program =>
    programName ++ " - Dependency-ordered test fixtures from a relational database\n\n" ++
      s!"Usage: {programName} [OPTIONS] <COMMAND>\n\nCommands:\n" ++ table commands ++
      "\nOptions:\n" ++ table (options none)
  | .command name =>
    s!"{name.purpose}\n\nUsage: {programName} {name.word} [OPTIONS]\n\nOptions:\n" ++
      table (options (some name))
  | .help =>
    s!"{helpPurpose}\n\nUsage: {programName} help [COMMAND]...\n\nArguments:\n" ++
      table [("[COMMAND]...", "Print help for the subcommand(s)")]

end Help

end FixturePlan.Cli
