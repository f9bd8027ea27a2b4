import EnvAudit.Env.Expiry
import EnvAudit.Env.Filter
import EnvAudit.Env.Name
import EnvAudit.Report.Health
import EnvAudit.Source.Secret

/-!
# Comparing two files

Every check of an env file and its example in one report.  Ignored keys are taken out before any
check, so they show up nowhere in it.
-/

namespace EnvAudit

structure CompareOptions where
  checkValues : Bool
  filter : KeyFilter
  weights : HealthWeights
  now : Instant

structure CompareReport where
  difference : Difference
  envDuplicates : List Duplicate
  exampleDuplicates : List Duplicate
  emptyKeys : List Text
  misnamed : List MisnamedKey
  lookAlikes : List LookAlike
  exampleSecrets : List ExampleSecret
  expiries : List Expiry
  stats : Stats
  healthScore : Nat
deriving DecidableEq

namespace CompareReport

/-- A key is missing, or the example holds what is almost certainly a secret. -/
def hasErrors (r : CompareReport) : Bool :=
  !r.difference.missing.isEmpty || r.exampleSecrets.any (·.severity == .high)

/-- Anything at all is reported. -/
def hasWarnings (r : CompareReport) : Bool :=
  !r.difference.isClean || !r.envDuplicates.isEmpty || !r.exampleDuplicates.isEmpty
    || !r.emptyKeys.isEmpty || !r.misnamed.isEmpty || !r.lookAlikes.isEmpty
    || !r.exampleSecrets.isEmpty || !r.expiries.isEmpty

end CompareReport

/-- The repeated keys of a file that are not ignored. -/
def keptDuplicates (f : KeyFilter) (raw : Text) : List Duplicate :=
  (duplicates raw).filter fun d => f.keeps d.key

/-- The dated keys of a file that are not ignored. -/
def keptExpiries (f : KeyFilter) (raw : Text) (now : Instant) : List Expiry :=
  (expiries raw now).filter fun e => f.keeps e.key

/-- Compares an env file with its example. -/
def compareFiles (envText exampleText : Text) (opts : CompareOptions) : CompareReport :=
  let env := opts.filter.apply (.parse envText)
  let expected := opts.filter.apply (.parse exampleText)
  let diff := difference env expected opts.checkValues
  let envDuplicates := keptDuplicates opts.filter envText
  let exampleDuplicates := keptDuplicates opts.filter exampleText
  let keys := firsts (env.keys ++ expected.keys)
  let misnamed := misnamed keys
  let lookAlikes := lookAlikes keys
  let exampleSecrets := exampleSecrets expected
  let expiries := keptExpiries opts.filter envText opts.now
  let counts : FindingCounts :=
    { ByFinding.zero with
      missing := diff.missing.length
      uppercase := misnamed.length
      exampleSecret := exampleSecrets.length
      expiration := expiries.length
      inconsistent := lookAlikes.length }
  { difference := diff
    envDuplicates := envDuplicates
    exampleDuplicates := exampleDuplicates
    emptyKeys := (env.entries.filter fun e => e.2.isEmpty).map Prod.fst
    misnamed := misnamed
    lookAlikes := lookAlikes
    exampleSecrets := exampleSecrets
    expiries := expiries
    stats := statsOf env expected envDuplicates exampleDuplicates diff none
    healthScore := healthScore counts opts.weights }

end EnvAudit
