import EnvAudit.Env.Difference
import EnvAudit.Env.Duplicate

/-!
# Health

The health score starts at 100 and loses a weight for every finding.  The weights are settings of
the user.
-/

namespace EnvAudit

/-- One number for each kind of finding that the score counts. -/
structure ByFinding where
  highSecret : Nat
  mediumSecret : Nat
  missing : Nat
  uppercase : Nat
  logged : Nat
  unused : Nat
  framework : Nat
  exampleSecret : Nat
  expiration : Nat
  inconsistent : Nat
deriving DecidableEq

/-- The points that a finding of each kind costs. -/
abbrev HealthWeights := ByFinding

/-- How many findings of each kind there are. -/
abbrev FindingCounts := ByFinding

namespace ByFinding

def zero : ByFinding := ⟨0, 0, 0, 0, 0, 0, 0, 0, 0, 0⟩

def toList (n : ByFinding) : List Nat :=
  [n.highSecret, n.mediumSecret, n.missing, n.uppercase, n.logged, n.unused, n.framework,
    n.exampleSecret, n.expiration, n.inconsistent]

end ByFinding

/-- The weights of a user who sets none. -/
def defaultWeights : HealthWeights := ⟨20, 10, 20, 2, 10, 1, 5, 10, 5, 3⟩

/-! ## The score -/

/-- The greatest number of 64 bits. -/
def maxWord : Nat := Nat.pow 2 64 - 1

/-- The sum, or the greatest number if the sum is beyond it. -/
def saturatingAdd (a b : Nat) : Nat := min (a + b) maxWord

/-- The product, or the greatest number if the product is beyond it. -/
def saturatingMul (a b : Nat) : Nat := min (a * b) maxWord

/-- What all findings together cost, or the greatest number if they cost more. -/
def penalty (counts : FindingCounts) (weights : HealthWeights) : Nat :=
  (counts.toList.zip weights.toList).foldl
    (fun cost p => saturatingAdd cost (saturatingMul p.1 p.2)) 0

/-- 100 less the penalty, and 0 at least. -/
def healthScore (counts : FindingCounts) (weights : HealthWeights) : Nat :=
  100 - penalty counts weights

/-! ## Statistics -/

/-- What only a scan of source files counts. -/
structure ScanStats where
  usages : Nat
  names : Nat
  files : Nat
deriving DecidableEq

/-- The sizes of what was compared. -/
structure Stats where
  envCount : Nat
  exampleCount : Nat
  sharedCount : Nat
  duplicateCount : Nat
  valueMismatchCount : Nat
  scan : Option ScanStats
deriving DecidableEq

/-- The statistics of two maps, the repeated keys of their files, and their difference. -/
def statsOf (env expected : EnvMap) (envDuplicates exampleDuplicates : List Duplicate)
    (d : Difference) (scan : Option ScanStats) : Stats where
  envCount := env.size
  exampleCount := expected.size
  sharedCount := sharedCount env expected
  duplicateCount := excess envDuplicates + excess exampleDuplicates
  valueMismatchCount := d.valueMismatches.length
  scan := scan

end EnvAudit
