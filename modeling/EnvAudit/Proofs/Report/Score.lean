import Mathlib.Data.List.Forall2
import EnvAudit.Report.Scan

/-!
# Counts and score

The health score of a report depends on nothing but the numbers of findings in its own lists.  It is
computed in numbers that stop at a greatest one, and `healthScore_eq` says that this never shows:
the score is that of the exact cost.  More findings of every kind never raise it.
-/

namespace EnvAudit

/-! ## 1. The exact cost -/

/-- What all findings together cost, however much that is. -/
def totalCost (counts : FindingCounts) (weights : HealthWeights) : Nat :=
  totalWeight (fun p => p.1 * p.2) (counts.toList.zip weights.toList)

theorem saturatingAdd_min (a b : Nat) :
    saturatingAdd (min a maxWord) (min b maxWord) = min (a + b) maxWord := by
  unfold saturatingAdd
  omega

theorem foldl_saturatingAdd (ps : List (Nat × Nat)) (cost : Nat) :
    ps.foldl (fun cost p => saturatingAdd cost (saturatingMul p.1 p.2)) (min cost maxWord)
      = min (cost + totalWeight (fun p => p.1 * p.2) ps) maxWord := by
  -- the sum so far may be anything: cut off at any point, it ends where the exact sum is cut off
  induction ps generalizing cost with
  | nil => rfl
  | cons p ps ih =>
    rw [List.foldl_cons, saturatingMul, saturatingAdd_min, ih, totalWeight, Nat.add_assoc]

theorem penalty_eq_min (counts : FindingCounts) (weights : HealthWeights) :
    penalty counts weights = min (totalCost counts weights) maxWord := by
  have h := foldl_saturatingAdd (counts.toList.zip weights.toList) 0
  rwa [Nat.zero_min, Nat.zero_add] at h

/-- A cost that the numbers cannot hold is far beyond 100 already. -/
theorem healthScore_eq (counts : FindingCounts) (weights : HealthWeights) :
    healthScore counts weights = 100 - totalCost counts weights := by
  have hmax : 100 ≤ maxWord := by decide
  rw [healthScore, penalty_eq_min]
  omega

/-! ## 2. Fewer findings, a better score -/

/-- As many findings or fewer, kind by kind. -/
instance : LE ByFinding := ⟨fun a b => List.Forall₂ (· ≤ ·) a.toList b.toList⟩

theorem totalWeight_zip_le {xs ys : List Nat} (h : List.Forall₂ (· ≤ ·) xs ys) (ws : List Nat) :
    totalWeight (fun p => p.1 * p.2) (xs.zip ws)
      ≤ totalWeight (fun p => p.1 * p.2) (ys.zip ws) := by
  induction h generalizing ws with
  | nil => exact Nat.le_refl _
  | cons hxy _ ih =>
    cases ws with
    | nil => exact Nat.le_refl _
    | cons w ws =>
      rw [List.zip_cons_cons, List.zip_cons_cons, totalWeight, totalWeight]
      exact Nat.add_le_add (Nat.mul_le_mul_right w hxy) (ih ws)

theorem healthScore_le {a b : FindingCounts} (h : a ≤ b) (weights : HealthWeights) :
    healthScore b weights ≤ healthScore a weights := by
  rw [healthScore_eq, healthScore_eq]
  exact Nat.sub_le_sub_left (totalWeight_zip_le h weights.toList) 100

/-! ## 3. The counts of a report -/

/-- How many findings of each kind a comparison lists. -/
def CompareReport.counts (r : CompareReport) : FindingCounts :=
  { ByFinding.zero with
    missing := r.difference.missing.length
    uppercase := r.misnamed.length
    exampleSecret := r.exampleSecrets.length
    expiration := r.expiries.length
    inconsistent := r.lookAlikes.length }

theorem compareFiles_healthScore (envText exampleText : Text) (opts : CompareOptions) :
    (compareFiles envText exampleText opts).healthScore
      = healthScore (compareFiles envText exampleText opts).counts opts.weights := rfl

/-- How many findings of each kind a scan lists. -/
def ScanReport.counts (r : ScanReport) : FindingCounts where
  highSecret := countSeverity .high r.secrets
  mediumSecret := countSeverity .medium r.secrets
  missing := r.missing.length
  uppercase := r.misnamed.length
  logged := r.logged.length
  unused := r.unused.length
  framework := r.frameworkWarnings.length + r.schemaWarnings.length
  exampleSecret := r.exampleSecrets.length
  expiration := r.expiries.length
  inconsistent := r.lookAlikes.length

theorem analyze_healthScore (files : List SourceFile) (envText : Text)
    (exampleText : Option Text) (opts : ScanOptions) :
    (analyze files envText exampleText opts).healthScore
      = healthScore (analyze files envText exampleText opts).counts opts.weights := rfl

end EnvAudit
