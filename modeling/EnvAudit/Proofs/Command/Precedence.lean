import Mathlib.Data.List.Basic
import EnvAudit.Command.Run
import EnvAudit.Files.Tree
import EnvAudit.Proofs.Command.Outcome
import EnvAudit.Proofs.Files.Name

/-!
# Options before settings

An option of the command line wins over the setting of the same name in a configuration file: a run
depends on a configuration only through what the options leave of it.  The names of excluded
directories are the exception, as those of both places are excluded.  `run_eq_of_leaves_eq` says
which pairs of configurations give the same run.
-/

namespace EnvAudit

/-! ## 1. What options leave of a configuration -/

/-- The settings without those that the options of both commands give. -/
def SharedFlags.leaves (shared : SharedFlags) (c : Config) : Config :=
  { c with
    envPath := if shared.envPath.isSome then none else c.envPath
    examplePath := if shared.examplePath.isSome then none else c.examplePath
    checkValues := if shared.checkValues then none else c.checkValues
    ignore := if shared.ignore.isEmpty then c.ignore else []
    ignoreRegex := if shared.ignoreRegex.isEmpty then c.ignoreRegex else []
    strict := if shared.strict then none else c.strict }

/-- The settings without those that the options of a scan give. -/
def ScanFlags.leaves (own : ScanFlags) (c : Config) : Config :=
  { c with
    exclude := if own.exclude.isEmpty then c.exclude else []
    minSeverity := if own.minSeverity.isSome then none else c.minSeverity
    schemaPath := if own.schemaPath.isSome then none else c.schemaPath }

/-- The settings that the options of a command do not give. -/
def Command.leaves : Command → Config → Config
  | .compare shared, c => shared.leaves c
  | .scan shared own, c => own.leaves (shared.leaves c)

theorem orElse_leaves {α : Type} (given configured : Option α) :
    (given <|> if given.isSome then none else configured) = (given <|> configured) := by
  cases given <;> rfl

theorem chosenList_leaves (given configured : List Text) :
    chosenList given (if given.isEmpty then configured else []) = chosenList given configured := by
  unfold chosenList
  split <;> rfl

theorem or_getD_leaves (given : Bool) (configured : Option Bool) :
    (given || (if given then none else configured).getD false)
      = (given || configured.getD false) := by
  cases given <;> rfl

/-! ## 2. Settings that are chosen -/

section

variable (shared : SharedFlags) (own : ScanFlags) (c : Config)

theorem chosenFilter_leaves : chosenFilter shared (shared.leaves c) = chosenFilter shared c := by
  simp only [chosenFilter, SharedFlags.leaves, chosenList_leaves]

theorem chosenCheckValues_leaves :
    chosenCheckValues shared (shared.leaves c) = chosenCheckValues shared c :=
  or_getD_leaves shared.checkValues c.checkValues

theorem isStrict_leaves : isStrict shared (shared.leaves c) = isStrict shared c :=
  or_getD_leaves shared.strict c.strict

theorem outcomeOf_leaves (document : Json) (summary : Text) (hasErrors hasWarnings : Bool) :
    outcomeOf shared (shared.leaves c) document summary hasErrors hasWarnings
      = outcomeOf shared c document summary hasErrors hasWarnings := by
  simp only [outcomeOf, isStrict_leaves]

theorem chosenSeverity_leaves : chosenSeverity own (own.leaves c) = chosenSeverity own c := by
  unfold chosenSeverity ScanFlags.leaves
  cases own.minSeverity <;> rfl

variable {m : Type → Type} [Monad m] (files : FileAccess m) (now : Instant)

theorem exampleText?_leaves (dir : Text) :
    exampleText? files (shared.leaves c) shared dir = exampleText? files c shared dir := by
  simp only [exampleText?, exampleIn?, SharedFlags.leaves, orElse_leaves]

theorem schemaOf?_leaves (info : ProjectInfo) :
    schemaOf? files (own.leaves c) own info = schemaOf? files c own info := by
  simp only [schemaOf?, ScanFlags.leaves, orElse_leaves]

/-! ## 3. Runs -/

theorem runCompare_leaves :
    runCompare files now (shared.leaves c) shared = runCompare files now c shared := by
  unfold runCompare
  simp only [chosenFilter_leaves, chosenCheckValues_leaves, outcomeOf_leaves]
  simp only [SharedFlags.leaves, orElse_leaves, chosenWeights]

theorem runScan_leaves_shared :
    runScan files now (shared.leaves c) shared own = runScan files now c shared own := by
  unfold runScan
  simp only [chosenFilter_leaves, chosenCheckValues_leaves, outcomeOf_leaves, exampleText?_leaves]
  simp only [SharedFlags.leaves, orElse_leaves]
  rfl

/-- Of what the options of a scan give, the excluded names alone do not replace the setting. -/
theorem runScan_leaves_own :
    runScan files now { own.leaves c with exclude := c.exclude } shared own
      = runScan files now c shared own := by
  have hseverity : chosenSeverity own { own.leaves c with exclude := c.exclude }
      = chosenSeverity own c := chosenSeverity_leaves own c
  -- the schema is read after the manifest, so it is compared for every manifest
  have hschema (info : ProjectInfo) :
      schemaOf? files { own.leaves c with exclude := c.exclude } own info
        = schemaOf? files c own info := schemaOf?_leaves own c files info
  unfold runScan
  rw [hseverity]
  simp only [hschema]
  rfl

end

/-! ## 4. Excluded directories -/

section

variable {m : Type → Type} [Monad m] (files : FileAccess m) (now : Instant) (c d : Config)
  (shared : SharedFlags) (own : ScanFlags)

/-- Nothing but the excluded names comes from two places. -/
theorem searchOf_eq :
    searchOf c own
      = { (SourceSearch.of own.directory).withExtensions c.extensions with
          excluded := skippedDirectories ++ c.exclude ++ own.exclude } := by
  unfold searchOf SourceSearch.withExtensions
  split <;> rfl

theorem SourceSearch.skips_ofText (s : SourceSearch) (name : Text) :
    s.skips name = s.excluded.contains name := by
  rw [skips, FileName.toText?_eq_some_iff.mpr rfl]
  rfl

/-- Names that are no text are never skipped, so those that are text tell. -/
theorem SourceSearch.forall_skips_eq_iff {s t : SourceSearch} :
    (∀ name, s.skips name = t.skips name) ↔ ∀ name : Text, s.skips name = t.skips name := by
  refine ⟨fun h name => h name, fun h name => ?_⟩
  cases htext : name.toText? with
  | none => rw [skips, skips, htext, Option.any_none, Option.any_none]
  | some text =>
    rw [FileName.toText?_eq_some_iff.mp htext]
    exact h text

theorem skips_searchOf (name : Text) :
    (searchOf c own).skips name
      ↔ name ∈ skippedDirectories ∨ name ∈ c.exclude ∨ name ∈ own.exclude := by
  rw [searchOf_eq, SourceSearch.skips_ofText, List.contains_iff_mem, List.mem_append,
    List.mem_append, or_assoc]

/-- The two configurations make a scan skip the same directories just if they name the same ones
beside those that are skipped anyway. -/
theorem skips_searchOf_eq_iff :
    (∀ name, (searchOf c own).skips name = (searchOf d own).skips name)
      ↔ ∀ name, name ∉ skippedDirectories → name ∉ own.exclude →
          (name ∈ c.exclude ↔ name ∈ d.exclude) := by
  -- a name that is skipped anyway, or that the options exclude, tells nothing
  rw [SourceSearch.forall_skips_eq_iff]
  refine forall_congr' fun name => ?_
  rw [Bool.eq_iff_iff, skips_searchOf, skips_searchOf]
  by_cases husual : name ∈ skippedDirectories
  · simp only [husual, true_or, not_true_eq_false, false_implies]
  · by_cases hgiven : name ∈ own.exclude
    · simp only [hgiven, or_true, not_true_eq_false, false_implies, implies_true]
    · simp only [husual, hgiven, false_or, or_false, not_false_eq_true, true_implies]

/-- A search finds the same files if it starts at the same place, skips the same directories and
looks for the same extensions. -/
theorem SourceSearch.collect_congr {s t : SourceSearch} (hroot : s.root = t.root)
    (hextensions : s.extensions = t.extensions) (hskips : ∀ name, s.skips name = t.skips name) :
    s.collect files = t.collect files := by
  have hwants : s.wants = t.wants := by
    funext name
    rw [SourceSearch.wants, SourceSearch.wants, hextensions]
  unfold SourceSearch.collect
  rw [hroot, hwants, funext hskips]

theorem collect_searchOf_exclude {names : List Text}
    (h : ∀ name, (searchOf c own).skips name
      = (searchOf { c with exclude := names } own).skips name) :
    (searchOf c own).collect files = (searchOf { c with exclude := names } own).collect files := by
  apply SourceSearch.collect_congr files ?_ ?_ h
  · rw [searchOf_eq, searchOf_eq]
  · rw [searchOf_eq, searchOf_eq]

theorem runScan_exclude {names : List Text}
    (h : ∀ name, (searchOf c own).skips name
      = (searchOf { c with exclude := names } own).skips name) :
    runScan files now c shared own
      = runScan files now { c with exclude := names } shared own := by
  unfold runScan
  rw [collect_searchOf_exclude files c own h]
  rfl

theorem searchOf_append :
    searchOf { c with exclude := c.exclude ++ own.exclude } { own with exclude := [] }
      = searchOf c own := by
  simp only [searchOf_eq, List.append_nil, List.append_assoc]

/-- The names of the options are added to those of the configuration. -/
theorem runScan_append :
    runScan files now { c with exclude := c.exclude ++ own.exclude } shared
        { own with exclude := [] }
      = runScan files now c shared own := by
  unfold runScan
  rw [searchOf_append]
  rfl

end

/-! ## 5. Two configurations -/

/-- The directories that two configurations exclude from a scan are the same, apart from those that
are skipped anyway and those that the options exclude. -/
def Command.SkipsAlike : Command → Config → Config → Prop
  | .compare _, _, _ => True
  | .scan _ own, c, d => ∀ name, name ∉ skippedDirectories → name ∉ own.exclude →
      (name ∈ c.exclude ↔ name ∈ d.exclude)

section

variable {m : Type → Type} [Monad m] (files : FileAccess m) (now : Instant) {c d : Config}

theorem runCompare_eq_of_leaves_eq {shared : SharedFlags}
    (h : shared.leaves c = shared.leaves d) :
    runCompare files now c shared = runCompare files now d shared :=
  calc runCompare files now c shared
      = runCompare files now (shared.leaves c) shared := (runCompare_leaves shared c files now).symm
    _ = runCompare files now (shared.leaves d) shared := by rw [h]
    _ = runCompare files now d shared := runCompare_leaves shared d files now

theorem runScan_eq_of_leaves_eq {shared : SharedFlags} {own : ScanFlags}
    (h : own.leaves (shared.leaves c) = own.leaves (shared.leaves d))
    (hskips : (Command.scan shared own).SkipsAlike c d) :
    runScan files now c shared own = runScan files now d shared own :=
  -- once the directories are known to be the same, one configuration takes the names of the other
  calc runScan files now c shared own
      = runScan files now { c with exclude := d.exclude } shared own :=
        runScan_exclude files now c shared own ((skips_searchOf_eq_iff c _ own).mpr hskips)
    _ = runScan files now (shared.leaves { c with exclude := d.exclude }) shared own :=
        (runScan_leaves_shared shared own _ files now).symm
    _ = runScan files now { own.leaves (shared.leaves c) with exclude := d.exclude } shared own :=
        (runScan_leaves_own shared own _ files now).symm
    _ = runScan files now { own.leaves (shared.leaves d) with exclude := d.exclude } shared
          own := by
        rw [h]
    _ = runScan files now (shared.leaves d) shared own :=
        runScan_leaves_own shared own (shared.leaves d) files now
    _ = runScan files now d shared own := runScan_leaves_shared shared own d files now

theorem Command.run_eq_run {command : Command} (h : command.leaves c = command.leaves d)
    (hskips : command.SkipsAlike c d) :
    command.run files now c = command.run files now d := by
  cases command with
  | compare shared => exact runCompare_eq_of_leaves_eq files now h
  | scan shared own => exact runScan_eq_of_leaves_eq files now h hskips

end

/-- **Options win over settings, except over excluded names**: two configurations that differ only
in settings given by options make a command run the same, output, notes and exit code, if they
exclude the same directories beside those that are skipped anyway and those that the options
exclude.  Just then the two searches skip the same directories: a scan excludes the names of both
places, as if the configuration held them all. -/
theorem run_eq_of_leaves_eq (files : FileAccess Id) (now : Instant) (command : Command)
    (c d : Config) :
    (command.leaves c = command.leaves d → command.SkipsAlike c d →
        Id.run (command.run files now c) = Id.run (command.run files now d)
          ∧ ∀ named named', settingsOf files named = .ok c → settingsOf files named' = .ok d →
              Id.run (Invocation.run files now ⟨named, command⟩)
                = Id.run (Invocation.run files now ⟨named', command⟩))
      ∧ ∀ shared own,
          ((Command.scan shared own).SkipsAlike c d
              ↔ ∀ name, (searchOf c own).skips name = (searchOf d own).skips name)
            ∧ Id.run (runScan files now c shared own)
                = Id.run (runScan files now { c with exclude := c.exclude ++ own.exclude } shared
                    { own with exclude := [] }) := by
  constructor
  · intro hleaves hskips
    have hrun : Id.run (command.run files now c) = Id.run (command.run files now d) := by
      rw [Command.run_eq_run files now hleaves hskips]
    refine ⟨hrun, fun named named' hc hd => ?_⟩
    calc Id.run (Invocation.run files now ⟨named, command⟩)
        = Id.run (command.run files now c) := Invocation.run_eq_of_settingsOf hc
      _ = Id.run (command.run files now d) := hrun
      _ = Id.run (Invocation.run files now ⟨named', command⟩) :=
          (Invocation.run_eq_of_settingsOf (i := ⟨named', command⟩) hd).symm
  · intro shared own
    exact ⟨(skips_searchOf_eq_iff c d own).symm, by rw [runScan_append]⟩

/-! ## 6. A project with two configurations -/

/-- A project in which one of two configurations excludes the only directory that uses a
variable. -/
def twoConfigs : FileAccess Id :=
  Tree.access (.directory
    [ ("c.json".toList, Tree.ofText "\x7b\"exclude\":[\"lib\"]\x7d".toList),
      ("d.json".toList, Tree.ofText "\x7b\x7d".toList),
      ("web".toList, .directory
        [("lib".toList, .directory
          [("a.ts".toList, Tree.ofText "process.env.X".toList)])]) ])

def excludingLib : Config := { Config.default with exclude := ["lib".toList] }

/-- A scan of `web` with an option for excluded names. -/
def scanExcluding (name : Text) : Command :=
  .scan noSharedFlags ⟨"web".toList, [name], none, none⟩

theorem settingsOf_twoConfigs :
    settingsOf twoConfigs (some "c.json".toList) = .ok excludingLib
      ∧ settingsOf twoConfigs (some "d.json".toList) = .ok Config.default :=
  ⟨eq_ok_of_toOption (by decide +kernel), eq_ok_of_toOption (by decide +kernel)⟩

/-- The option excludes what the configuration excludes, so the configuration does not count. -/
theorem run_eq_of_excluded_lib :
    Id.run (Invocation.run twoConfigs (.ofSeconds 0 0)
        ⟨some "c.json".toList, scanExcluding "lib".toList⟩)
      = Id.run (Invocation.run twoConfigs (.ofSeconds 0 0)
          ⟨some "d.json".toList, scanExcluding "lib".toList⟩) := by
  have hskips : (scanExcluding "lib".toList).SkipsAlike excludingLib Config.default := by
    intro name _ hgiven
    exact ⟨fun h => absurd h hgiven, fun h => absurd h List.not_mem_nil⟩
  exact ((run_eq_of_leaves_eq twoConfigs (.ofSeconds 0 0) (scanExcluding "lib".toList) excludingLib
    Config.default).1 rfl hskips).2 _ _ settingsOf_twoConfigs.1 settingsOf_twoConfigs.2

/-- The option excludes `other`, and nevertheless the configuration decides on the verdict. -/
theorem leaves_eq_run_ne :
    settingsOf twoConfigs (some "c.json".toList) = .ok excludingLib
      ∧ settingsOf twoConfigs (some "d.json".toList) = .ok Config.default
      ∧ (scanExcluding "other".toList).leaves excludingLib
          = (scanExcluding "other".toList).leaves Config.default
      ∧ (Id.run (Invocation.run twoConfigs (.ofSeconds 0 0)
          ⟨some "c.json".toList, scanExcluding "other".toList⟩)).exitCode = 0
      ∧ (Id.run (Invocation.run twoConfigs (.ofSeconds 0 0)
          ⟨some "d.json".toList, scanExcluding "other".toList⟩)).exitCode = 1 :=
  ⟨settingsOf_twoConfigs.1, settingsOf_twoConfigs.2, rfl, by decide +kernel, by decide +kernel⟩

end EnvAudit
