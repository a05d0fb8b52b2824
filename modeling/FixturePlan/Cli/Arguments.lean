/-!
# Command-line arguments

    fixgraph [-c FILE] [-d PATH] [-v] (schema | plan [-o FILE] | order | help [COMMAND])

The options may stand before and behind the command; of a value given at both places the one behind
counts. At each place every option may stand once. An option is written long, with its value behind
`=` or as the next argument, or short, alone or in a cluster, with its value right behind it, behind
`=` or as the next argument. A value that is an argument of its own does not begin with a dash, unless
it is a single one.

Arguments are read from left to right, and the first that asks for help or for the version, or that is
wrong, decides. Only a value that is an argument of its own is looked at later: when another option
begins, or at the end.
-/

namespace FixturePlan.Cli

/-! ### What arguments say -/

inductive CommandName where
  | schema
  | plan
  | order
  deriving DecidableEq, Repr

inductive Topic where
  | program
  | command (name : CommandName)
  | help
  deriving DecidableEq, Repr

inductive ValueOption where
  | config
  | database
  | output
  deriving DecidableEq, Repr

/-- The options given at one place. -/
structure Options where
  config : Option String
  database : Option String
  output : Option String
  verbose : Bool
  /-- A value that has not been looked at. -/
  pending : Option (ValueOption × String)
  deriving DecidableEq, Repr

/-- Why reading ends early. -/
inductive Stop where
  | help (topic : Topic)
  | version
  | misuse
  deriving DecidableEq, Repr

structure Invocation where
  command : CommandName
  config : Option String
  database : Option String
  output : Option String
  verbose : Bool
  deriving DecidableEq, Repr

namespace CommandName

def ofWord? : String → Option CommandName
  | "schema" => some .schema
  | "plan" => some .plan
  | "order" => some .order
  | _ => none

end CommandName

/-! ### Collecting options

A value that is an argument of its own stays pending until something else settles it. Whatever settles it
may find that the option has a value already, and this fault then counts as the first. -/

namespace Options

def none : Options := ⟨.none, .none, .none, false, .none⟩

def get? (o : Options) : ValueOption → Option String
  | .config => o.config
  | .database => o.database
  | .output => o.output

/-- Give an option its value. It may not have one yet, and a file has to have a name. -/
def set (o : Options) (option : ValueOption) (value : String) : Except Stop Options :=
  if (o.get? option).isSome then .error .misuse
  else
    match option with
    | .database => .ok { o with database := value }
    | .config => if value.isEmpty then .error .misuse else .ok { o with config := value }
    | .output => if value.isEmpty then .error .misuse else .ok { o with output := value }

/-- Look at the pending value. -/
def settle (o : Options) : Except Stop Options :=
  match o.pending with
  | some (option, value) => ({ o with pending := .none }).set option value
  | .none => .ok o

def setVerbose (o : Options) : Except Stop Options :=
  if o.verbose then .error .misuse else .ok { o with verbose := true }

end Options

/-! ### Places of options -/

/-- Where an option stands: before the command or behind it. -/
abbrev Site := Option CommandName

namespace Site

def topic : Site → Topic
  | none => .program
  | some name => .command name

def long? (site : Site) : String → Option ValueOption
  | "config" => some .config
  | "database" => some .database
  | "output" => if site = some .plan then some .output else none
  | _ => none

def short? (site : Site) : Char → Option ValueOption
  | 'c' => some .config
  | 'd' => some .database
  | 'o' => if site = some .plan then some .output else none
  | _ => none

end Site

/-! ### Reading options -/

/-- Whether an argument can be the value of the option before it. -/
def isValue (arg : String) : Bool := arg == "-" || arg.toList.head? != some '-'

/-- Options that are done with, or an option that still waits for its value. -/
abbrev Progress := Options × Option ValueOption

/-- Read a long option, from behind its two dashes. -/
def readLong (site : Site) (o : Options) (cs : List Char) : Except Stop Progress := do
  let name := String.ofList (cs.takeWhile (· != '='))
  let value := match cs.dropWhile (· != '=') with
    | [] => none
    | _ :: rest => some (String.ofList rest)
  match site.long? name, value with
  | some option, some v => return (← (← o.settle).set option v, none)
  | some option, none => return (← o.settle, some option)
  | none, some _ => .error .misuse
  | none, none =>
    match name with
    | "verbose" => return (← (← o.settle).setVerbose, none)
    | "help" =>
      -- a fault in a pending value comes before the help
      let _ ← o.settle
      .error (.help site.topic)
    | "version" =>
      -- commands have no version of their own
      if site.isSome then .error .misuse
      let _ ← o.settle
      .error .version
    | _ => .error .misuse

/-- Read a cluster of short options, from behind its dash. -/
def readShort (site : Site) (o : Options) : List Char → Except Stop Progress
  | [] => .ok (o, none)
  | c :: rest =>
    match site.short? c with
    | some option => do
      let o ← o.settle
      match rest with
      | [] => return (o, some option)
      -- '=' :: value =>|an equals sign before the value does not belong to it
      | '=' :: value => return (← o.set option (String.ofList value), none)
      | value => return (← o.set option (String.ofList value), none)
    | none => do
      match c with
      | 'v' => readShort site (← (← o.settle).setVerbose) rest
      | 'h' =>
        let _ ← o.settle
        .error (.help site.topic)
      | 'V' =>
        if site.isSome then .error .misuse
        let _ ← o.settle
        .error .version
      | _ => .error .misuse

/-- Read an argument that is an option; `none` if it is a word. -/
def readOption? (site : Site) (o : Options) (arg : String) : Option (Except Stop Progress) :=
  match arg.toList with
  | '-' :: '-' :: cs => some (readLong site o cs)
  | '-' :: c :: cs => some (readShort site o (c :: cs))
  | _ => none

/-! ### Reading arguments -/

def readBehind (name : CommandName) (o : Options) : List String → Except Stop Options
  | [] => o.settle
  | "--" :: rest => if rest.isEmpty then o.settle else .error .misuse
  | arg :: rest =>
    match readOption? (some name) o arg with
    | none => .error .misuse
    | some (.error stop) => .error stop
    | some (.ok (o', none)) => readBehind name o' rest
    | some (.ok (o', some option)) =>
      match rest with
      | [] => .error .misuse
      | value :: rest' =>
        if isValue value then readBehind name { o' with pending := some (option, value) } rest'
        else .error .misuse

def readTopic : List String → Stop
  | [] => .help .program
  | ["help"] => .help .help
  | [word] => ((CommandName.ofWord? word).map fun name => Stop.help (.command name)).getD .misuse
  | _ => .misuse

/-- A command with the options from both places. -/
def invocation (name : CommandName) (before behind : Options) : Invocation :=
  { command := name
    config := behind.config.or before.config
    database := behind.database.or before.database
    output := behind.output
    verbose := before.verbose || behind.verbose }

def readArguments (o : Options) : List String → Except Stop Invocation
  | [] => .error .misuse
  | "--" :: _ => .error .misuse
  | "help" :: rest => .error (readTopic rest)
  | arg :: rest =>
    match readOption? none o arg with
    | none =>
      match CommandName.ofWord? arg with
      | none => .error .misuse
      | some name => do
        -- a value pending from before the command is settled after all that stands behind it
        let behind ← readBehind name .none rest
        return invocation name (← o.settle) behind
    | some (.error stop) => .error stop
    | some (.ok (o', none)) => readArguments o' rest
    | some (.ok (o', some option)) =>
      match rest with
      | [] => .error .misuse
      | value :: rest' =>
        if isValue value then readArguments { o' with pending := some (option, value) } rest'
        else .error .misuse

def parseArguments (args : List String) : Except Stop Invocation := readArguments .none args

end FixturePlan.Cli
