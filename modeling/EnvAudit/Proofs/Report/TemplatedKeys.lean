import EnvAudit.Files.Tree
import EnvAudit.Proofs.Env.Difference
import EnvAudit.Proofs.Command.Outcome
import EnvAudit.Proofs.Report.UsedNames
import EnvAudit.Proofs.Report.Verdict

/-!
# Templated keys that are missing

A key of the example that the env file lacks is an error of a comparison.  A scan lists it as well,
with the mark of an error, but its verdict asks for the names that the source files use:
`hasErrors_iff_undeclared` says when a scan has errors, and so for which files both verdicts agree.
-/

namespace EnvAudit

/-! ## 1. Keys and names that are missing -/

/-- The example has the key and the env file does not, and it is not ignored. -/
def IsLacking (f : KeyFilter) (envText exampleText key : Text) : Prop :=
  key ∈ (EnvMap.parse exampleText).keys ∧ f.keeps key ∧ key ∉ (EnvMap.parse envText).keys

/-- A source file uses the variable. -/
def IsUsed (files : List SourceFile) (name : Text) : Prop :=
  ∃ file ∈ files, ∃ u ∈ scanUsages file.path file.content, u.name = name

/-- A source file uses the variable and the env file does not have it, and it is not ignored. -/
def IsUndeclared (f : KeyFilter) (files : List SourceFile) (envText name : Text) : Prop :=
  IsUsed files name ∧ f.keeps name ∧ name ∉ (EnvMap.parse envText).keys

theorem not_mem_keys_apply {f : KeyFilter} {key : Text} (h : f.keeps key) (m : EnvMap) :
    key ∉ (f.apply m).keys ↔ key ∉ m.keys := by
  rw [KeyFilter.keys_apply, List.mem_filter, and_iff_left h]

theorem mem_missing_difference (f : KeyFilter) (envText exampleText : Text) (checkValues : Bool)
    (key : Text) :
    key ∈ (difference (f.apply (.parse envText)) (f.apply (.parse exampleText))
        checkValues).missing
      ↔ IsLacking f envText exampleText key := by
  rw [mem_missing, IsLacking, KeyFilter.keys_apply f (.parse exampleText), List.mem_filter,
    and_assoc]
  refine and_congr_right fun _ => and_congr_right fun hkeeps => ?_
  exact not_mem_keys_apply hkeeps (.parse envText)

theorem mem_map_keptUsages (f : KeyFilter) (files : List SourceFile) (name : Text) :
    name ∈ (keptUsages f files).map (·.name) ↔ IsUsed files name ∧ f.keeps name := by
  simp only [keptUsages, IsUsed, List.mem_map, List.mem_flatMap, List.mem_filter]
  constructor
  · rintro ⟨u, ⟨file, hfile, hu, hkeeps⟩, rfl⟩
    exact ⟨⟨file, hfile, u, hu, rfl⟩, hkeeps⟩
  · rintro ⟨⟨file, hfile, u, hu, rfl⟩, hkeeps⟩
    exact ⟨u, ⟨file, hfile, hu, hkeeps⟩, rfl⟩

theorem mem_missing_analyze (files : List SourceFile) (envText : Text) (exampleText : Option Text)
    (opts : ScanOptions) (name : Text) :
    name ∈ (analyze files envText exampleText opts).missing
      ↔ IsUndeclared opts.filter files envText name := by
  -- the names that are used, each once, without those of the env file that are kept
  have hmissing : (analyze files envText exampleText opts).missing
      = (firsts ((keptUsages opts.filter files).map (·.name))).filter fun v =>
          !(opts.filter.apply (.parse envText)).keys.contains v := rfl
  rw [hmissing, mem_filter_not_contains, mem_firsts, mem_map_keptUsages, IsUndeclared, and_assoc]
  refine and_congr_right fun _ => and_congr_right fun hkeeps => ?_
  exact not_mem_keys_apply hkeeps (.parse envText)

theorem ScanReport.hasWarnings_of_mem_missing {r : ScanReport} {d : Difference}
    (h : r.exampleDifference = some d) {key : Text} (hkey : key ∈ d.missing) : r.hasWarnings := by
  by_contra hnone
  have hblank := hasWarnings_eq_false_iff.mp (Bool.eq_false_iff.mpr hnone)
  rw [hblank.exampleDifference d h] at hkey
  cases hkey

/-! ## 2. The two verdicts -/

/-- A comparison fails on a templated key that the env file lacks, and a scan lists the same keys as
missing.  But a scan has errors just if a used variable is undeclared or a secret of high severity
is found; so the scan fails on lacking keys like the comparison just if one of the two is there as
well, for instance where a file uses a lacking key.  Without either it is only a strict scan that
fails. -/
theorem hasErrors_iff_undeclared (files : List SourceFile) (envText exampleText : Text)
    (opts : ScanOptions) (checkValues : Bool) (weights : HealthWeights) (now : Instant) :
    let compared : CompareReport :=
      compareFiles envText exampleText ⟨checkValues, opts.filter, weights, now⟩
    let scanned : ScanReport := analyze files envText (some exampleText) opts
    let lacks (key : Text) := IsLacking opts.filter envText exampleText key
    let undeclared (name : Text) := IsUndeclared opts.filter files envText name
    let exposes := (∃ s ∈ scanned.secrets, s.severity = .high)
      ∨ ∃ s ∈ scanned.exampleSecrets, s.severity = .high
    ((∃ key, lacks key) → compared.hasErrors)
      ∧ (∃ d, scanned.exampleDifference = some d ∧ d.missing = compared.difference.missing
          ∧ ∀ key, key ∈ d.missing ↔ lacks key)
      ∧ (scanned.hasErrors ↔ (∃ name, undeclared name) ∨ exposes)
      ∧ (((∃ key, lacks key) → scanned.hasErrors)
          ↔ ((∃ key, lacks key) → (∃ name, undeclared name) ∨ exposes))
      ∧ (∀ key, lacks key → IsUsed files key → scanned.hasErrors)
      ∧ ((∃ key, lacks key) → scanned.hasWarnings)
      ∧ (∀ disk now config shared, comparedReport disk now config shared = .ok compared →
          (∃ key, lacks key) → (Id.run (runCompare disk now config shared)).exitCode = 1)
      ∧ ∀ disk now config shared own, scannedReport disk now config shared own = .ok scanned →
          ((Id.run (runScan disk now config shared own)).exitCode = 1
            ↔ ((∃ name, undeclared name) ∨ exposes)
              ∨ isStrict shared config ∧ scanned.hasWarnings) := by
  intro compared scanned lacks undeclared exposes
  have hlacks (cv : Bool) (key : Text) :
      key ∈ (difference (opts.filter.apply (.parse envText))
          (opts.filter.apply (.parse exampleText)) cv).missing ↔ lacks key :=
    mem_missing_difference opts.filter envText exampleText cv key
  have herrors : scanned.hasErrors ↔ (∃ name, undeclared name) ∨ exposes := by
    rw [ScanReport.hasErrors_iff]
    simp only [scanned, undeclared, exposes, mem_missing_analyze]
  have hcompared : (∃ key, lacks key) → compared.hasErrors := by
    rintro ⟨key, hkey⟩
    exact compared.hasErrors_iff.mpr (Or.inl ⟨key, (hlacks checkValues key).mpr hkey⟩)
  refine ⟨hcompared, ⟨_, rfl, rfl, hlacks opts.checkValues⟩, herrors, ?_, ?_, ?_, ?_, ?_⟩
  · rw [herrors]
  · intro key hkey hused
    exact herrors.mpr (Or.inl ⟨key, hused, hkey.2⟩)
  · rintro ⟨key, hkey⟩
    exact ScanReport.hasWarnings_of_mem_missing rfl ((hlacks opts.checkValues key).mpr hkey)
  · intro disk now config shared hreport hkeys
    exact (exitCode_runCompare hreport).mpr (Or.inl (hcompared hkeys))
  · intro disk now config shared own hreport
    rw [exitCode_runScan hreport, herrors]

/-- The env file lacks `B`, which no source file uses: the comparison fails and the scan succeeds,
though it lists `B` as missing. -/
theorem isLacking_not_hasErrors :
    let env := "A=1\n".toList
    let expected := "A=\nB=\n".toList
    let source := "process.env.A".toList
    let compared := compareFiles env expected ⟨false, .empty, defaultWeights, .ofSeconds 0 0⟩
    let scanned := analyze [⟨"a.ts".toList, source⟩] env (some expected)
      ⟨false, .empty, .low, {}, .unknown, none, defaultWeights, .ofSeconds 0 0⟩
    let disk := (Tree.directory [(".env".toList, .ofText env),
      (".env.example".toList, .ofText expected),
      ("src".toList, .directory [("a.ts".toList, .ofText source)])]).access
    let shared : SharedFlags :=
      ⟨some ".env".toList, some ".env.example".toList, false, [], [], false, false⟩
    let now := Instant.ofSeconds 0 0
    IsLacking .empty env expected "B".toList ∧ compared.hasErrors ∧ scanned.hasErrors = false
      ∧ scanned.exampleDifference = some ⟨["B".toList], [], []⟩
      ∧ (Id.run (runCompare disk now .default shared)).exitCode = 1
      ∧ (Id.run (runScan disk now .default shared ⟨"src".toList, [], none, none⟩)).exitCode
          = 0 := by
  intro env expected source compared scanned disk shared now
  exact ⟨⟨by decide +kernel, by decide +kernel, by decide +kernel⟩, by decide +kernel,
    by decide +kernel, by decide +kernel, by decide +kernel, by decide +kernel⟩

end EnvAudit
