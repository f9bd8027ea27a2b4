import EnvAudit.Proofs.Project.SchemaProblems
import EnvAudit.Proofs.Report.Score

/-!
# The order of the source files

A scan collects usages, secrets and client components file by file.  `analyze_perm` says that the
order of the files shows in nothing but the order of what is listed: every finding is reported for
one order if it is reported for the other, as often, and all counts, the score and the verdict are
the same.
-/

namespace EnvAudit

theorem firsts_perm {α : Type} [DecidableEq α] {xs ys : List α} (h : xs.Perm ys) :
    (firsts xs).Perm (firsts ys) := by
  rw [List.perm_ext_iff_of_nodup (nodup_firsts xs) (nodup_firsts ys)]
  intro a
  rw [mem_firsts, mem_firsts, h.mem_iff]

/-! ## 1. Reports that differ in the order of their lists -/

namespace ScanReport

/-- Two reports of the same findings.  What comes from the source files may stand in another order,
and a warning about a schema may have been met in another file first; all else is equal. -/
structure IsReordering (r r' : ScanReport) : Prop where
  usages : r.usages.Perm r'.usages
  missing : r.missing.Perm r'.missing
  unused : r.unused = r'.unused
  secrets : r.secrets.Perm r'.secrets
  logged : r.logged.Perm r'.logged
  misnamed : r.misnamed.Perm r'.misnamed
  frameworkWarnings : r.frameworkWarnings.Perm r'.frameworkWarnings
  schemaReasons : (r.schemaWarnings.map (·.reason)).Perm (r'.schemaWarnings.map (·.reason))
  exampleSecrets : r.exampleSecrets = r'.exampleSecrets
  expiries : r.expiries = r'.expiries
  duplicates : r.duplicates = r'.duplicates
  lookAlikes : r.lookAlikes = r'.lookAlikes
  exampleDifference : r.exampleDifference = r'.exampleDifference
  stats : r.stats = r'.stats

namespace IsReordering

variable {r r' : ScanReport}

theorem counts (h : r.IsReordering r') : r.counts = r'.counts := by
  have hseverity (severity : Severity) :
      countSeverity severity r.secrets = countSeverity severity r'.secrets :=
    (h.secrets.filter _).length_eq
  have hschema : r.schemaWarnings.length = r'.schemaWarnings.length := by
    simpa only [List.length_map] using h.schemaReasons.length_eq
  unfold ScanReport.counts
  rw [hseverity, hseverity, h.missing.length_eq, h.misnamed.length_eq, h.logged.length_eq, h.unused,
    h.frameworkWarnings.length_eq, hschema, h.exampleSecrets, h.expiries, h.lookAlikes]

theorem hasErrors (h : r.IsReordering r') : r.hasErrors = r'.hasErrors := by
  unfold ScanReport.hasErrors
  rw [h.missing.isEmpty_eq, h.secrets.any_eq, h.exampleSecrets]

theorem hasWarnings (h : r.IsReordering r') : r.hasWarnings = r'.hasWarnings := by
  have hschema : r.schemaWarnings.isEmpty = r'.schemaWarnings.isEmpty := by
    simpa only [List.isEmpty_map] using h.schemaReasons.isEmpty_eq
  unfold ScanReport.hasWarnings
  rw [h.missing.isEmpty_eq, h.unused, h.secrets.isEmpty_eq, h.logged.isEmpty_eq,
    h.misnamed.isEmpty_eq, h.frameworkWarnings.isEmpty_eq, hschema, h.exampleSecrets, h.expiries,
    h.duplicates, h.lookAlikes, h.exampleDifference]

end IsReordering

end ScanReport

/-! ## 2. What files hold, in another order -/

section

variable {files files' : List SourceFile}

theorem keptUsages_perm (h : files.Perm files') (f : KeyFilter) :
    (keptUsages f files).Perm (keptUsages f files') :=
  h.flatMap_right _

theorem keptSecrets_perm (h : files.Perm files') (opts : ScanOptions) :
    (keptSecrets opts files).Perm (keptSecrets opts files') :=
  h.flatMap_right _

/-- The rules ask whether a file is among the client components, not for its place. -/
theorem check_rulesFor_perm (h : files.Perm files') (framework : Framework) :
    (rulesFor framework files).check = (rulesFor framework files').check := by
  have hclient (path : Text) :
      (rulesFor framework files).clientFiles.contains path
        = (rulesFor framework files').clientFiles.contains path := by
    unfold rulesFor
    split
    · exact ((h.filter _).map _).contains_eq
    · rfl
  funext u
  unfold FrameworkRules.check FrameworkRules.breaches
  rw [hclient]
  rfl

theorem misnamed_perm {names names' : List Text} (h : names.Perm names') :
    (misnamed names).Perm (misnamed names') := by
  unfold misnamed
  exact ((firsts_perm h).filter _).map _

theorem EnvSchema.checkAll_perm (schema : EnvSchema) {us us' : List Usage} (h : us.Perm us') :
    ((schema.checkAll us).map (·.reason)).Perm ((schema.checkAll us').map (·.reason)) := by
  have hproblems : ((schema.checkAll us).map (·.problem)).Perm
      ((schema.checkAll us').map (·.problem)) := by
    rw [schema.map_problem_checkAll, schema.map_problem_checkAll]
    exact firsts_perm (h.flatMap_right _)
  -- the reason is made from the problem alone
  have hreasons := hproblems.map fun p => (p.1, p.2.message p.1)
  rwa [List.map_map, List.map_map] at hreasons

/-! ## 3. The report for files in another order -/

variable (envText : Text) (exampleText : Option Text) (opts : ScanOptions)

theorem analyze_isReordering (h : files.Perm files') :
    (analyze files envText exampleText opts).IsReordering
      (analyze files' envText exampleText opts) := by
  have husages := keptUsages_perm h opts.filter
  have hused := firsts_perm (husages.map (·.name))
  have hcontains (key : Text) :
      (firsts ((keptUsages opts.filter files).map (·.name))).contains key
        = (firsts ((keptUsages opts.filter files').map (·.name))).contains key :=
    hused.contains_eq
  exact {
    usages := husages
    missing := hused.filter _
    unused := by
      simp only [analyze, hcontains]
    secrets := keptSecrets_perm h opts
    logged := husages.filter _
    misnamed := misnamed_perm hused
    frameworkWarnings := by
      simp only [analyze, check_rulesFor_perm h]
      exact husages.flatMap_right _
    schemaReasons := by
      simp only [analyze]
      cases opts.schema with
      | none => exact .refl _
      | some schema => exact schema.checkAll_perm husages
    exampleSecrets := rfl
    expiries := rfl
    duplicates := rfl
    lookAlikes := rfl
    exampleDifference := rfl
    stats := by
      simp only [analyze, husages.length_eq, hused.length_eq, h.length_eq] }

/-- The order of the source files does not matter. -/
theorem analyze_perm (h : files.Perm files') :
    let r : ScanReport := analyze files envText exampleText opts
    let r' : ScanReport := analyze files' envText exampleText opts
    r.IsReordering r' ∧ r.healthScore = r'.healthScore ∧ r.hasErrors = r'.hasErrors
      ∧ r.hasWarnings = r'.hasWarnings := by
  intro r r'
  have hr : r.IsReordering r' := analyze_isReordering envText exampleText opts h
  refine ⟨hr, ?_, hr.hasErrors, hr.hasWarnings⟩
  rw [analyze_healthScore, analyze_healthScore, hr.counts]

end

/-- The missing names come in the order of the files, and the warning that `PORT` is not declared
names the file that comes first. -/
theorem analyze_perm_swap :
    let a : SourceFile := ⟨"a.ts".toList, "process.env.PORT".toList⟩
    let b : SourceFile := ⟨"b.ts".toList, "process.env.HOST, process.env.PORT".toList⟩
    let report (files : List SourceFile) := analyze files [] none
      ⟨false, .empty, .low, {}, .nextJs, some ⟨["HOST".toList], []⟩, defaultWeights, .ofSeconds 0 0⟩
    [a, b].Perm [b, a]
      ∧ (report [a, b]).IsReordering (report [b, a])
      ∧ (report [a, b]).healthScore = (report [b, a]).healthScore
      ∧ (report [a, b]).hasErrors = (report [b, a]).hasErrors
      ∧ (report [a, b]).hasWarnings = (report [b, a]).hasWarnings
      ∧ (report [a, b]).missing = ["PORT".toList, "HOST".toList]
      ∧ (report [b, a]).missing = ["HOST".toList, "PORT".toList]
      ∧ (report [a, b]).schemaWarnings.map (·.file) = ["a.ts".toList]
      ∧ (report [b, a]).schemaWarnings.map (·.file) = ["b.ts".toList] := by
  intro a b report
  have hswap : [a, b].Perm [b, a] := .swap b a []
  have h := analyze_perm [] none
    ⟨false, .empty, .low, {}, .nextJs, some ⟨["HOST".toList], []⟩, defaultWeights, .ofSeconds 0 0⟩
    hswap
  rcases h with ⟨hreordering, hscore, herrors, hwarnings⟩
  exact ⟨hswap, hreordering, hscore, herrors, hwarnings, by decide +kernel, by decide +kernel,
    by decide +kernel, by decide +kernel⟩

end EnvAudit
