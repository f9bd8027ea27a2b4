import EnvAudit.Command.Run

/-!
# Reports and exit codes

With a file system that answers at once, a run is a value.  `runCompare_eq` and `runScan_eq` take it
apart into the report and what becomes of it: a run that does not fail prints its report, and the
exit code is the verdict of that report.
-/

namespace EnvAudit

/-! ## 1. The verdict of a report -/

/-- A report fails a run by its errors, and a strict run by its warnings too. -/
theorem exitCode_outcomeOf (shared : SharedFlags) (config : Config) (document : Json)
    (summary : Text) (hasErrors hasWarnings : Bool) :
    (outcomeOf shared config document summary hasErrors hasWarnings).exitCode = 1
      ↔ hasErrors ∨ isStrict shared config ∧ hasWarnings := by
  simp only [outcomeOf, Outcome.exitCode, Bool.or_eq_true, Bool.and_eq_true]
  split <;> simp_all

theorem exists_of_bind_eq_ok {ε α β : Type} {x : Except ε α} {f : α → Except ε β} {b : β}
    (h : (x >>= f) = .ok b) : ∃ a, x = .ok a ∧ f a = .ok b := by
  cases x with
  | error e => cases h
  | ok a => exact ⟨a, rfl, h⟩

theorem eq_ok_of_toOption {ε α : Type} {x : Except ε α} {a : α} (h : x.toOption = some a) :
    x = .ok a := by
  cases x with
  | error e => cases h
  | ok b => cases h; rfl

section

variable (files : FileAccess Id) (now : Instant) (config : Config) (shared : SharedFlags)
  (own : ScanFlags)

/-! ## 2. Comparisons -/

def comparedPath : Place := files.resolve ((shared.envPath <|> config.envPath).getD defaultEnv)

def expectedPath : Place :=
  files.resolve ((shared.examplePath <|> config.examplePath).getD defaultExample)

/-- The report of a comparison, or what it fails with. -/
def comparedReport : Except (Text × Failure) CompareReport := do
  let filter ← (chosenFilter shared config).mapError ("Invalid --ignore-regex".toList, ·)
  return compareFiles (files.textOrEmpty (comparedPath files config shared))
    (files.textOrEmpty (expectedPath files config shared))
    { checkValues := chosenCheckValues shared config
      filter := filter
      weights := chosenWeights config
      now := now }

theorem runCompare_eq :
    Id.run (runCompare files now config shared)
      = match comparedReport files now config shared with
        | .error (context, cause) => .failure context cause
        | .ok r =>
          outcomeOf shared config r.toJson
            (r.summary (comparedPath files config shared) (expectedPath files config shared))
            r.hasErrors r.hasWarnings := by
  unfold runCompare comparedReport
  cases chosenFilter shared config with
  | error e => rfl
  | ok filter => rfl

variable {files now config shared own}

theorem exists_compareFiles {r : CompareReport}
    (h : comparedReport files now config shared = .ok r) :
    ∃ envText exampleText opts, r = compareFiles envText exampleText opts := by
  obtain ⟨filter, -, h⟩ := exists_of_bind_eq_ok h
  cases h
  exact ⟨_, _, _, rfl⟩

theorem exitCode_runCompare {r : CompareReport}
    (h : comparedReport files now config shared = .ok r) :
    (Id.run (runCompare files now config shared)).exitCode = 1
      ↔ r.hasErrors ∨ isStrict shared config ∧ r.hasWarnings := by
  rw [runCompare_eq, h]
  exact exitCode_outcomeOf ..

/-! ## 3. Scans -/

variable (files now config shared own)

/-- The report of a scan, or what it fails with. -/
def scannedReport : Except (Text × Failure) ScanReport := do
  let filter ← (chosenFilter shared config).mapError ("Invalid --ignore-regex".toList, ·)
  let sources ← (Id.run ((searchOf config own).collect files)).mapError
    ("Failed to scan ".toList ++ own.directory, ·)
  let minSeverity ← (chosenSeverity own config).mapError ("Invalid minSeverity in config".toList, ·)
  let path := (shared.envPath <|> config.envPath).getD (Path.join own.directory defaultEnv)
  let info := ProjectInfo.parse (readManifest files own.directory)
  return analyze sources (resolvedText files path)
    (exampleText? files config shared own.directory)
    { checkValues := chosenCheckValues shared config
      filter := filter
      minSeverity := minSeverity
      limits := {}
      framework := info.framework
      schema := schemaOf? files config own info
      weights := chosenWeights config
      now := now }

theorem runScan_eq :
    Id.run (runScan files now config shared own)
      = match scannedReport files now config shared own with
        | .error (context, cause) => .failure context cause
        | .ok r =>
          outcomeOf shared config r.toJson (r.summary own.directory) r.hasErrors
            r.hasWarnings := by
  unfold runScan scannedReport
  cases chosenFilter shared config with
  | error e => rfl
  | ok filter =>
    dsimp only [bind, Except.bind, Except.mapError, pure]
    -- the search reads the file system, but it is a value all the same
    cases hsources : Id.run ((searchOf config own).collect files) with
    | error e =>
      simp only [Id.run] at hsources ⊢
      rw [hsources]
    | ok sources =>
      simp only [Id.run] at hsources ⊢
      rw [hsources]
      cases chosenSeverity own config with
      | error e => rfl
      | ok minSeverity => rfl

variable {files now config shared own}

theorem exists_analyze {r : ScanReport}
    (h : scannedReport files now config shared own = .ok r) :
    ∃ sources envText exampleText opts, r = analyze sources envText exampleText opts := by
  obtain ⟨filter, -, h⟩ := exists_of_bind_eq_ok h
  obtain ⟨sources, -, h⟩ := exists_of_bind_eq_ok h
  obtain ⟨minSeverity, -, h⟩ := exists_of_bind_eq_ok h
  cases h
  exact ⟨_, _, _, _, rfl⟩

theorem exitCode_runScan {r : ScanReport}
    (h : scannedReport files now config shared own = .ok r) :
    (Id.run (runScan files now config shared own)).exitCode = 1
      ↔ r.hasErrors ∨ isStrict shared config ∧ r.hasWarnings := by
  rw [runScan_eq, h]
  exact exitCode_outcomeOf ..

/-! ## 4. Invocations -/

theorem Invocation.run_eq_of_settingsOf {i : Invocation} {c : Config}
    (h : settingsOf files i.config = .ok c) :
    Id.run (i.run files now) = Id.run (i.command.run files now c) := by
  unfold Invocation.run
  rw [h]
  rfl

end

end EnvAudit
