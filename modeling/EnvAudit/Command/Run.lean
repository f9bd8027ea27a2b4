import EnvAudit.Command.Arguments
import EnvAudit.Files.Search
import EnvAudit.Files.Settings
import EnvAudit.Project.Files
import EnvAudit.Project.Manifest
import EnvAudit.Report.Document
import EnvAudit.Report.Summary

/-!
# Running a command

A run reads the settings, checks what the command asks for, and ends with a report or with a
failure.  Options of the command line win over settings of the configuration file.
-/

namespace EnvAudit

/-! ## Outcomes -/

/-- What a run ends with: a report and whether the check has failed; a failure with what was being
done; help; the version; or a command line that makes no sense. -/
inductive Outcome
  | report (text : Text) (failed : Bool)
  | failure (context : Text) (cause : Failure)
  | help
  | version
  | usageError
deriving DecidableEq

def versionText : Text := "dotenv-diff 0.3.0\n".toList

def usageText : Text :=
  ("Usage: dotenv-diff [--config FILE] compare [OPTIONS]\n" ++
    "       dotenv-diff [--config FILE] scan [OPTIONS] [DIR]\n\n" ++
    "Options: --env FILE, --example FILE, --check-values, --ignore KEYS,\n" ++
    "         --ignore-regex PATTERNS, --json, --strict\n" ++
    "For scan: --exclude NAMES, --min-severity low|medium|high, --t3-schema FILE\n").toList

namespace Outcome

/-- What a run prints; a failure prints nothing. -/
def printed : Outcome → Text
  | .report text _ => text
  | .version => versionText
  | _ => []

/-- What a run tells the user beside its output. -/
def note : Outcome → Text
  | .failure context cause =>
    ["Error: ".toList, context, ": ".toList, cause.message, ['\n']].flatten
  | .help | .usageError => usageText
  | _ => []

def exitCode : Outcome → Nat
  | .report _ failed => if failed then 1 else 0
  | .failure _ _ => 1
  | .usageError => 2
  | .help | .version => 0

end Outcome

/-! ## Settings -/

/-- The list that the options give, or that of the configuration if they give none. -/
def chosenList (given configured : List Text) : List Text :=
  if given.isEmpty then configured else given

def chosenFilter (shared : SharedFlags) (config : Config) : Except Failure KeyFilter :=
  readFilter (chosenList shared.ignore config.ignore)
    (chosenList shared.ignoreRegex config.ignoreRegex)

def chosenCheckValues (shared : SharedFlags) (config : Config) : Bool :=
  shared.checkValues || config.checkValues.getD false

def isStrict (shared : SharedFlags) (config : Config) : Bool :=
  shared.strict || config.strict.getD false

def chosenWeights (config : Config) : HealthWeights := config.healthWeights.getD defaultWeights

/-- The least severity to report; a name in the configuration is read only if it is needed. -/
def chosenSeverity (own : ScanFlags) (config : Config) : Except Failure Severity :=
  match own.minSeverity, config.minSeverity with
  | some severity, _ => .ok severity
  | none, some name => readSeverity name
  | none, none => .ok .low

/-- A report as JSON or for readers, with its verdict. -/
def outcomeOf (shared : SharedFlags) (config : Config) (document : Json) (summary : Text)
    (hasErrors hasWarnings : Bool) : Outcome :=
  .report (if shared.json then document.pretty ++ ['\n'] else summary)
    (hasErrors || (isStrict shared config && hasWarnings))

/-! ## Commands -/

def defaultEnv : Text := ".env".toList

def defaultExample : Text := ".env.example".toList

section

variable {m : Type → Type} [Monad m] (files : FileAccess m) (now : Instant)

/-- Compares an env file with its example. -/
def runCompare (config : Config) (shared : SharedFlags) : m Outcome := do
  match chosenFilter shared config with
  | .error e => return .failure "Invalid --ignore-regex".toList e
  | .ok filter =>
    let env ← files.resolve ((shared.envPath <|> config.envPath).getD defaultEnv)
    let expected ← files.resolve ((shared.examplePath <|> config.examplePath).getD defaultExample)
    let report := compareFiles (← files.textOrEmpty env) (← files.textOrEmpty expected)
      { checkValues := chosenCheckValues shared config
        filter := filter
        weights := chosenWeights config
        now := now }
    return outcomeOf shared config report.toJson (report.summary env expected) report.hasErrors
      report.hasWarnings

/-- The example of a scan: the file that is named, or else the one in the directory. -/
def exampleIn? (config : Config) (shared : SharedFlags) (dir : Text) : m (Option Text) := do
  match shared.examplePath <|> config.examplePath with
  | some path => return some path
  | none =>
    let path := Path.join dir defaultExample
    return if ← files.isFile path then some path else none

/-- The text of the file that a path is resolved to. -/
def resolvedText (path : Text) : m Text := do files.textOrEmpty (← files.resolve path)

/-- The text of an example, if there is a path to one. -/
def exampleText? (config : Config) (shared : SharedFlags) (dir : Text) : m (Option Text) := do
  match ← exampleIn? files config shared dir with
  | some path => return some (← resolvedText files path)
  | none => return none

/-- The schema of a project: one that is named is always read, others only if the project uses
schemas. -/
def schemaOf? (config : Config) (own : ScanFlags) (info : ProjectInfo) : m (Option EnvSchema) := do
  let given := own.schemaPath <|> config.schemaPath
  if given.isSome || info.usesSchema then
    return (← readSchema files own.directory given).map EnvSchema.parse
  return none

/-- The search for the source files of a scan. -/
def searchOf (config : Config) (own : ScanFlags) : SourceSearch :=
  (((SourceSearch.of own.directory).exclude config.exclude).exclude own.exclude).withExtensions
    config.extensions

/-- Scans the source files of a project. -/
def runScan (config : Config) (shared : SharedFlags) (own : ScanFlags) : m Outcome := do
  match chosenFilter shared config with
  | .error e => return .failure "Invalid --ignore-regex".toList e
  | .ok filter =>
    match ← (searchOf config own).collect files with
    | .error e => return .failure ("Failed to scan ".toList ++ own.directory) e
    | .ok sources =>
      match chosenSeverity own config with
      | .error e => return .failure "Invalid minSeverity in config".toList e
      | .ok minSeverity =>
        let path := (shared.envPath <|> config.envPath).getD (Path.join own.directory defaultEnv)
        let envText ← resolvedText files path
        let exampleText ← exampleText? files config shared own.directory
        let info := ProjectInfo.parse (← readManifest files own.directory)
        let schema ← schemaOf? files config own info
        let report := analyze sources envText exampleText
          { checkValues := chosenCheckValues shared config
            filter := filter
            minSeverity := minSeverity
            limits := {}
            framework := info.framework
            schema := schema
            weights := chosenWeights config
            now := now }
        return outcomeOf shared config report.toJson (report.summary own.directory)
          report.hasErrors report.hasWarnings

/-- The settings of a run: those of the named file, or of the one in the working directory. -/
def settingsOf (named : Option Text) : m (Except (Text × Failure) Config) := do
  match named with
  | some path =>
    return (← loadConfig files path).mapError fun e => ("Failed to load ".toList ++ path, e)
  | none =>
    match ← discoverConfig files ['.'] with
    | .error e => return .error ("Failed to load config".toList, e)
    | .ok found => return .ok (found.getD .default)

/-- Runs a command with its settings. -/
def Command.run (config : Config) : Command → m Outcome
  | .compare shared => runCompare files now config shared
  | .scan shared own => runScan files now config shared own

/-- Runs an invocation at an instant. -/
def Invocation.run (i : Invocation) : m Outcome := do
  match ← settingsOf files i.config with
  | .error (context, e) => return .failure context e
  | .ok config => i.command.run files now config

/-- Runs a command line at an instant. -/
def runCommandLine (arguments : List Text) : m Outcome := do
  match Request.ofArguments arguments with
  | .run invocation => invocation.run files now
  | .help => return .help
  | .version => return .version
  | .usageError => return .usageError

end

end EnvAudit
