import EnvAudit.Failure
import EnvAudit.Text.Scan

/-!
# Command lines

A command line names a command and gives options before or after it.  Options have long names
with two dashes; a value follows as the next argument or behind an equals sign.  The arguments are
read from left to right: the first one that makes no sense, or that asks for help or the version,
ends the reading.
-/

namespace EnvAudit

/-! ## What a command line asks for -/

/-- What both commands take. -/
structure SharedFlags where
  envPath : Option Text
  examplePath : Option Text
  checkValues : Bool
  ignore : List Text
  ignoreRegex : List Text
  json : Bool
  strict : Bool
deriving DecidableEq

/-- What only a scan takes. -/
structure ScanFlags where
  directory : Text
  exclude : List Text
  minSeverity : Option Severity
  schemaPath : Option Text
deriving DecidableEq

inductive Command
  | compare (shared : SharedFlags)
  | scan (shared : SharedFlags) (own : ScanFlags)
deriving DecidableEq

/-- A command with the configuration file that the user names. -/
structure Invocation where
  config : Option Text
  command : Command
deriving DecidableEq

/-- How the reading of a command line ends. -/
inductive Request
  | run (invocation : Invocation)
  | help
  | version
  | usageError
deriving DecidableEq

/-! ## Options -/

/-- Where an option stands: before the command, or behind one of the two. -/
inductive Level
  | top
  | compare
  | scan
deriving DecidableEq

/-- Options with a value. -/
inductive ValueOption
  | config
  | env
  | expected
  | ignore
  | ignoreRegex
  | exclude
  | minSeverity
  | schema
deriving DecidableEq

/-- Options without one. -/
inductive Switch
  | verbose
  | checkValues
  | json
  | strict
  | help
  | version
deriving DecidableEq

/-- The options with a value that are known at a level, by their names. -/
def valueOptions (level : Level) : List (String × ValueOption) :=
  [("config", .config)]
  ++ (if level = .top then [] else
    [("env", .env), ("example", .expected), ("ignore", .ignore), ("ignore-regex", .ignoreRegex)])
  ++ (if level = .scan then
    [("exclude", .exclude), ("min-severity", .minSeverity), ("t3-schema", .schema)] else [])

/-- The switches that are known at a level, by their names. -/
def switches (level : Level) : List (String × Switch) :=
  [("verbose", .verbose), ("help", .help)]
  ++ if level = .top then [("version", .version)] else
    [("check-values", .checkValues), ("json", .json), ("strict", .strict)]

/-- The switches with a name of one letter. -/
def letterSwitches (level : Level) : List (Char × Switch) :=
  [('v', .verbose), ('h', .help)] ++ if level = .top then [('V', .version)] else []

def named? {α : Type} (known : List (String × α)) (name : Text) : Option α :=
  (known.find? fun k => k.1.toList = name).map Prod.snd

/-! ## Collecting -/

/-- What the arguments so far have set.  `outerConfig` is the configuration file named before the
command; it holds unless one is named behind it. -/
structure Given where
  level : Level
  outerConfig : Option Text
  config : Option Text
  shared : SharedFlags
  directory : Option Text
  exclude : List Text
  minSeverity : Option Severity
  schemaPath : Option Text
deriving DecidableEq

def noSharedFlags : SharedFlags := ⟨none, none, false, [], [], false, false⟩

/-- Nothing is set at a level. -/
def Given.start (level : Level) (outerConfig : Option Text) : Given :=
  ⟨level, outerConfig, none, noSharedFlags, none, [], none, none⟩

/-- Sets what may be set once only. -/
def once {α : Type} (old : Option α) (new : α) : Option (Option α) :=
  if old.isSome then none else some (some new)

/-- Sets a path once; an empty text is no path. -/
def pathOnce (old : Option Text) (path : Text) : Option (Option Text) :=
  if path.isEmpty then none else once old path

/-- Turns a switch on once. -/
def onOnce (old : Bool) : Option Bool := if old then none else some true

/-- Adds the values between commas. -/
def addValues (old : List Text) (value : Text) : List Text := old ++ Text.pieces ',' value

/-- Sets an option with a value, unless the value is refused or the option may not be repeated. -/
def Given.setValue (g : Given) (option : ValueOption) (value : Text) : Option Given :=
  match option with
  | .config => (pathOnce g.config value).map fun v => { g with config := v }
  | .env => (pathOnce g.shared.envPath value).map fun v => { g with shared.envPath := v }
  | .expected =>
    (pathOnce g.shared.examplePath value).map fun v => { g with shared.examplePath := v }
  | .ignore => some { g with shared.ignore := addValues g.shared.ignore value }
  | .ignoreRegex => some { g with shared.ignoreRegex := addValues g.shared.ignoreRegex value }
  | .exclude => some { g with exclude := addValues g.exclude value }
  | .minSeverity =>
    (readSeverity value).toOption.bind fun s =>
      (once g.minSeverity s).map fun v => { g with minSeverity := v }
  | .schema => (pathOnce g.schemaPath value).map fun v => { g with schemaPath := v }

/-- Turns a switch on that does not end the reading. -/
def Given.turnOn (g : Given) (switch : Switch) : Option Given :=
  match switch with
  | .checkValues => (onOnce g.shared.checkValues).map fun v => { g with shared.checkValues := v }
  | .json => (onOnce g.shared.json).map fun v => { g with shared.json := v }
  | .strict => (onOnce g.shared.strict).map fun v => { g with shared.strict := v }
  | _ => some g

/-- Sets the directory of a scan. -/
def Given.setDirectory (g : Given) (path : Text) : Option Given :=
  (pathOnce g.directory path).map fun v => { g with directory := v }

/-- The level that a command opens. -/
def commandLevel? (name : Text) : Option Level :=
  named? [("compare", .compare), ("scan", .scan)] name

/-- Takes an argument that is no option: the command, or the directory of a scan. -/
def Given.setPlain (g : Given) (argument : Text) : Option Given :=
  match g.level with
  | .top => (commandLevel? argument).map fun level => .start level g.config
  | .compare => none
  | .scan => g.setDirectory argument

/-- The invocation that all arguments together describe, if there is a command. -/
def Given.invocation? (g : Given) : Option Invocation :=
  let config := g.config <|> g.outerConfig
  match g.level with
  | .top => none
  | .compare => some ⟨config, .compare g.shared⟩
  | .scan =>
    some ⟨config,
      .scan g.shared ⟨g.directory.getD ['.'], g.exclude, g.minSeverity, g.schemaPath⟩⟩

/-! ## Reading -/

/-- An argument as it looks. -/
inductive ArgumentForm
  | plain
  | endOfOptions
  | long (name : Text) (value : Option Text)
  | letters (names : Text)

/-- A single dash is a plain argument. -/
def argumentForm : Text → ArgumentForm
  | ['-', '-'] => .endOfOptions
  | '-' :: '-' :: s =>
    match Text.splitOnce? '=' s with
    | none => .long s none
    | some (name, value) => .long name (some value)
  | '-' :: c :: s => .letters (c :: s)
  | _ => .plain

/-- An argument that may be the value of the option before it. -/
def isPlain (argument : Text) : Bool :=
  match argumentForm argument with
  | .plain => true
  | _ => false

/-- What a step of the reading leads to: more reading, or an end. -/
abbrev Reading := Except Request

def orUsageError {α : Type} (x : Option α) : Reading α :=
  match x with
  | some a => .ok a
  | none => .error .usageError

/-- Reads a switch. -/
def readSwitch (g : Given) (switch : Switch) : Reading Given :=
  match switch with
  | .help => .error .help
  | .version => .error .version
  | switch => orUsageError (g.turnOn switch)

/-- Reads letters one after the other. -/
def readLetters (g : Given) : Text → Reading Given
  | [] => .ok g
  | c :: s => do
    let switch ← orUsageError ((letterSwitches g.level).lookup c)
    readLetters (← readSwitch g switch) s

/-- Reads an option with its value. -/
def readValue (g : Given) (name value : Text) : Reading Given := do
  let option ← orUsageError (named? (valueOptions g.level) name)
  orUsageError (g.setValue option value)

/-- Reads an argument behind the end of options; it cannot name a command. -/
def readPlain (g : Given) (argument : Text) : Reading Given :=
  if g.level = .top then .error .usageError else orUsageError (g.setPlain argument)

/-- Help on the command line itself or on one of its commands. -/
def readHelp : List Text → Request
  | [] => .help
  | [name] =>
    if name = "help".toList || (commandLevel? name).isSome then .help else .usageError
  | _ => .usageError

/-- Reads arguments from left to right. -/
def readArguments (g : Given) : List Text → Reading Given
  | [] => .ok g
  | a :: rest =>
    match argumentForm a with
    | .plain =>
      if g.level = .top ∧ a = "help".toList then .error (readHelp rest)
      else do readArguments (← orUsageError (g.setPlain a)) rest
    | .endOfOptions => rest.foldlM readPlain g
    | .letters names => do readArguments (← readLetters g names) rest
    | .long name (some value) => do readArguments (← readValue g name value) rest
    | .long name none =>
      match named? (switches g.level) name, rest with
      | some switch, rest => do readArguments (← readSwitch g switch) rest
      | none, [] => .error .usageError
      | none, value :: rest =>
        if isPlain value then do readArguments (← readValue g name value) rest
        else .error .usageError

/-- The invocation that a command line describes, or what else it asks for. -/
def readCommandLine (arguments : List Text) : Reading Invocation := do
  orUsageError (← readArguments (.start .top none) arguments).invocation?

/-- What a command line asks for. -/
def Request.ofArguments (arguments : List Text) : Request :=
  match readCommandLine arguments with
  | .ok invocation => .run invocation
  | .error request => request

end EnvAudit
