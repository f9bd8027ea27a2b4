import EnvAudit.Project.Schema
import EnvAudit.Report.Compare
import EnvAudit.Project.Framework

/-!
# Scanning a codebase

What source files use, held against an env file and perhaps its example, in one report.
-/

namespace EnvAudit

/-- A file with its path relative to the root of the scan. -/
structure SourceFile where
  path : Text
  content : Text
deriving DecidableEq

structure ScanOptions where
  checkValues : Bool
  filter : KeyFilter
  minSeverity : Severity
  limits : SecretLimits
  framework : Framework
  schema : Option EnvSchema
  weights : HealthWeights
  now : Instant

structure ScanReport where
  usages : List Usage
  missing : List Text
  unused : List Text
  secrets : List SourceSecret
  logged : List Usage
  misnamed : List MisnamedKey
  frameworkWarnings : List FrameworkWarning
  schemaWarnings : List SchemaWarning
  exampleSecrets : List ExampleSecret
  expiries : List Expiry
  duplicates : List Duplicate
  lookAlikes : List LookAlike
  exampleDifference : Option Difference
  stats : Stats
  healthScore : Nat
deriving DecidableEq

namespace ScanReport

/-- A used variable is missing, or there is what is almost certainly a secret. -/
def hasErrors (r : ScanReport) : Bool :=
  !r.missing.isEmpty || r.secrets.any (·.severity == .high)
    || r.exampleSecrets.any (·.severity == .high)

/-- Anything at all is reported. -/
def hasWarnings (r : ScanReport) : Bool :=
  !r.missing.isEmpty || !r.unused.isEmpty || !r.secrets.isEmpty || !r.logged.isEmpty
    || !r.misnamed.isEmpty || !r.frameworkWarnings.isEmpty || !r.schemaWarnings.isEmpty
    || !r.exampleSecrets.isEmpty || !r.expiries.isEmpty || !r.duplicates.isEmpty
    || !r.lookAlikes.isEmpty || r.exampleDifference.any fun d => !d.isClean

end ScanReport

/-! ## Parts of the report -/

/-- The usages in all files, without those of ignored variables. -/
def keptUsages (f : KeyFilter) (files : List SourceFile) : List Usage :=
  files.flatMap fun file => (scanUsages file.path file.content).filter fun u => f.keeps u.name

/-- Whether a secret is reported: it is severe enough and not that of an ignored key. -/
def reportsSecret (f : KeyFilter) (minSeverity : Severity) (s : SourceSecret) : Bool :=
  decide (minSeverity ≤ s.severity) && s.key.all f.keeps

/-- The secrets in all files that are reported. -/
def keptSecrets (opts : ScanOptions) (files : List SourceFile) : List SourceSecret :=
  files.flatMap fun file =>
    (sourceSecrets opts.limits file.path file.content).filter
      (reportsSecret opts.filter opts.minSeverity)

/-- The rules of the framework; only Next.js asks which files are client components. -/
def rulesFor (framework : Framework) (files : List SourceFile) : FrameworkRules where
  framework := framework
  clientFiles :=
    if framework = .nextJs then
      (files.filter fun f => isClientComponent f.content).map (·.path)
    else []

def countSeverity (severity : Severity) (secrets : List SourceSecret) : Nat :=
  (secrets.filter fun s => s.severity == severity).length

/-- Checks what the files use against the env file, and the env file against its example. -/
def analyze (files : List SourceFile) (envText : Text) (exampleText : Option Text)
    (opts : ScanOptions) : ScanReport :=
  let env := opts.filter.apply (.parse envText)
  let expected := exampleText.map fun t => opts.filter.apply (.parse t)
  let usages := keptUsages opts.filter files
  let secrets := keptSecrets opts files
  let used := firsts (usages.map (·.name))
  let missing := used.filter fun v => !env.contains v
  let unused := env.keys.filter fun k => !used.contains k
  let logged := usages.filter (·.isLogged)
  let misnamed := misnamed used
  let frameworkWarnings := usages.flatMap (rulesFor opts.framework files).check
  let schemaWarnings := (opts.schema.map fun s => s.checkAll usages).getD []
  let exampleSecrets := (expected.map exampleSecrets).getD []
  let expiries := keptExpiries opts.filter envText opts.now
  let envDuplicates := keptDuplicates opts.filter envText
  let exampleDuplicates := (exampleText.map (keptDuplicates opts.filter)).getD []
  let lookAlikes := lookAlikes env.keys
  let exampleDifference := expected.map fun e => difference env e opts.checkValues
  let counts : FindingCounts :=
    { highSecret := countSeverity .high secrets
      mediumSecret := countSeverity .medium secrets
      missing := missing.length
      uppercase := misnamed.length
      logged := logged.length
      unused := unused.length
      framework := frameworkWarnings.length + schemaWarnings.length
      exampleSecret := exampleSecrets.length
      expiration := expiries.length
      inconsistent := lookAlikes.length }
  { usages := usages
    missing := missing
    unused := unused
    secrets := secrets
    logged := logged
    misnamed := misnamed
    frameworkWarnings := frameworkWarnings
    schemaWarnings := schemaWarnings
    exampleSecrets := exampleSecrets
    expiries := expiries
    duplicates := envDuplicates
    lookAlikes := lookAlikes
    exampleDifference := exampleDifference
    stats := statsOf env (expected.getD ∅) envDuplicates exampleDuplicates
      (exampleDifference.getD .none) (some ⟨usages.length, used.length, files.length⟩)
    healthScore := healthScore counts opts.weights }

end EnvAudit
