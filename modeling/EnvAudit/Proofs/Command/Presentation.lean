import Mathlib.Logic.Relation
import EnvAudit.Files.Tree
import EnvAudit.Proofs.Command.Reading

/-!
# How a report is given

A run first finds out what there is to say or what it fails with; only then do the switches decide
how this is printed and what becomes of warnings.  So `--json` does not change a verdict, `--strict`
does not change what is printed, and a run that cannot be made fails in the same way with and
without them (`run_adding`).
-/

namespace EnvAudit

section

variable (files : FileAccess Id) (now : Instant) (config : Config) (f : ReportFlag)

/-! ## 1. What a run has to say -/

/-- What there is to say, as a document and for readers, and what is wrong with it. -/
structure Account where
  document : Json
  summary : Text
  hasErrors : Bool
  hasWarnings : Bool

/-- What a command has to say, or what it fails with. -/
def Command.account : Command → Except (Text × Failure) Account
  | .compare shared => (comparedReport files now config shared).map fun r =>
    ⟨r.toJson, r.summary (comparedPath files config shared) (expectedPath files config shared),
      r.hasErrors, r.hasWarnings⟩
  | .scan shared own => (scannedReport files now config shared own).map fun r =>
    ⟨r.toJson, r.summary own.directory, r.hasErrors, r.hasWarnings⟩

/-- What comes of it with the options of a command. -/
def Account.outcome (shared : SharedFlags) (a : Account) : Outcome :=
  outcomeOf shared config a.document a.summary a.hasErrors a.hasWarnings

/-- What a run has to say, with its settings, or what it fails with. -/
def Invocation.account (i : Invocation) : Except (Text × Failure) (Config × Account) := do
  let config ← Id.run (settingsOf files i.config)
  (i.command.account files now config).map (config, ·)

/-- What comes of a run that has this to say. -/
def presented (shared : SharedFlags) : Except (Text × Failure) (Config × Account) → Outcome
  | .error (context, cause) => .failure context cause
  | .ok (config, a) => a.outcome config shared

theorem Command.run_eq (command : Command) :
    Id.run (command.run files now config)
      = match command.account files now config with
        | .error (context, cause) => .failure context cause
        | .ok a => a.outcome config command.shared := by
  cases command with
  | compare shared =>
    refine (runCompare_eq files now config shared).trans ?_
    simp only [Command.account, Account.outcome, Command.shared]
    cases comparedReport files now config shared with
    | error e => rfl
    | ok r => simp only [Except.map]
  | scan shared own =>
    refine (runScan_eq files now config shared own).trans ?_
    simp only [Command.account, Account.outcome, Command.shared]
    cases scannedReport files now config shared own with
    | error e => rfl
    | ok r => simp only [Except.map]

theorem Invocation.run_eq (i : Invocation) :
    Id.run (i.run files now) = presented i.command.shared (i.account files now) := by
  unfold Invocation.account
  cases hsettings : Id.run (settingsOf files i.config) with
  | error e =>
    unfold Invocation.run
    rw [show settingsOf files i.config = .error e from hsettings]
    rfl
  | ok c =>
    rw [Invocation.run_eq_of_settingsOf hsettings, Command.run_eq]
    simp only [bind, Except.bind]
    cases i.command.account files now c <;> rfl

theorem envPath_turnOn (shared : SharedFlags) : (f.turnOn shared).envPath = shared.envPath := by
  cases f <;> rfl

theorem examplePath_turnOn (shared : SharedFlags) :
    (f.turnOn shared).examplePath = shared.examplePath := by
  cases f <;> rfl

theorem chosenFilter_turnOn (shared : SharedFlags) :
    chosenFilter (f.turnOn shared) config = chosenFilter shared config := by
  cases f <;> rfl

theorem chosenCheckValues_turnOn (shared : SharedFlags) :
    chosenCheckValues (f.turnOn shared) config = chosenCheckValues shared config := by
  cases f <;> rfl

theorem comparedReport_turnOn (shared : SharedFlags) :
    comparedReport files now config (f.turnOn shared)
      = comparedReport files now config shared := by
  unfold comparedReport comparedPath expectedPath
  rw [chosenFilter_turnOn, chosenCheckValues_turnOn, envPath_turnOn, examplePath_turnOn]

theorem scannedReport_turnOn (shared : SharedFlags) (own : ScanFlags) :
    scannedReport files now config (f.turnOn shared) own
      = scannedReport files now config shared own := by
  unfold scannedReport exampleText? exampleIn?
  rw [chosenFilter_turnOn, chosenCheckValues_turnOn, envPath_turnOn, examplePath_turnOn]

/-- The switches make no difference to what there is to say. -/
theorem Command.account_adding (command : Command) :
    (command.adding f).account files now config = command.account files now config := by
  cases command with
  | compare shared =>
    rw [Command.adding, Command.account, Command.account, comparedReport_turnOn, comparedPath,
      comparedPath, expectedPath, expectedPath, envPath_turnOn, examplePath_turnOn]
  | scan shared own =>
    rw [Command.adding, Command.account, Command.account, scannedReport_turnOn]

theorem Invocation.account_adding (i : Invocation) :
    (i.adding f).account files now = i.account files now := by
  unfold Invocation.account Invocation.adding
  simp only [Command.account_adding]

/-! ## 2. What makes a run fail -/

/-- The settings at a path cannot be used: there is no text, or the text gives no settings. -/
def IsUnusable (path : Text) : Prop := (Id.run (files.text? path)).bind Config.parse? = none

/-- A run cannot be made: its settings cannot be used, a pattern of the keys to ignore is none, the
directory to scan is not there, or the severity in the settings is none. -/
inductive CannotRun (i : Invocation) : Prop
  | namedConfig {path : Text} (hpath : i.config = some path) (hbad : IsUnusable files path)
  | usualConfig (hpath : i.config = none)
      (hpresent : Id.run (files.isPresent (Path.join ['.'] configName)))
      (hbad : IsUnusable files (Path.join ['.'] configName))
  | pattern {config : Config} {pattern : Text} (hconfig : settingsOf files i.config = .ok config)
      (hpattern : pattern ∈ chosenList i.command.shared.ignoreRegex config.ignoreRegex)
      (hbad : Pattern.parse? pattern = none)
  | root {shared : SharedFlags} {own : ScanFlags} (hcommand : i.command = .scan shared own)
      (hbad : Id.run (files.isDirectory own.directory) = false)
  | severity {config : Config} {shared : SharedFlags} {own : ScanFlags} {name : Text}
      (hconfig : settingsOf files i.config = .ok config) (hcommand : i.command = .scan shared own)
      (hgiven : own.minSeverity = none) (hname : config.minSeverity = some name)
      (hbad : Severity.ofName? (Severity.normalName name) = none)

/-- A computation ends with an error. -/
def Fails {ε α : Type} (x : Except ε α) : Prop := ∃ e, x = .error e

section

variable {ε ε' α β : Type}

theorem not_fails_ok (a : α) : ¬ Fails (.ok a : Except ε α) := by
  rintro ⟨e, h⟩
  cases h

theorem fails_error (e : ε) : Fails (.error e : Except ε α) := ⟨e, rfl⟩

theorem fails_bind {x : Except ε α} {k : α → Except ε β} :
    Fails (x >>= k) ↔ Fails x ∨ ∃ a, x = .ok a ∧ Fails (k a) := by
  cases x with
  | error e => exact iff_of_true ⟨e, rfl⟩ (Or.inl ⟨e, rfl⟩)
  | ok a => simp [not_fails_ok, bind, Except.bind]

/-- What comes second fails for the same reasons after every result of what comes first. -/
theorem fails_bind_iff_or {x : Except ε α} {k : α → Except ε β} {p : Prop}
    (h : ∀ a, Fails (k a) ↔ p) : Fails (x >>= k) ↔ Fails x ∨ p := by
  cases x with
  | error e => exact iff_of_true ⟨e, rfl⟩ (Or.inl ⟨e, rfl⟩)
  | ok a => simpa [not_fails_ok, bind, Except.bind] using h a

theorem fails_mapError {f : ε → ε'} {x : Except ε α} : Fails (x.mapError f) ↔ Fails x := by
  cases x with
  | error e => exact iff_of_true ⟨f e, rfl⟩ ⟨e, rfl⟩
  | ok a => exact iff_of_false (not_fails_ok a) (not_fails_ok a)

theorem fails_map {f : α → β} {x : Except ε α} : Fails (x.map f) ↔ Fails x := by
  cases x with
  | error e => exact iff_of_true ⟨e, rfl⟩ ⟨e, rfl⟩
  | ok a => exact iff_of_false (not_fails_ok (f a)) (not_fails_ok a)

end

theorem fails_readConfig {path text : Text} :
    Fails (readConfig path text) ↔ Config.parse? text = none := by
  unfold readConfig
  cases Config.parse? text with
  | none => exact iff_of_true (fails_error _) rfl
  | some c => exact iff_of_false (not_fails_ok c) nofun

theorem fails_loadConfig (path : Text) :
    Fails (Id.run (loadConfig files path)) ↔ IsUnusable files path := by
  unfold IsUnusable loadConfig
  simp only [Id.run_bind]
  cases Id.run (files.text? path) with
  | none => exact iff_of_true (fails_error _) rfl
  | some text => exact fails_readConfig

theorem fails_discoverConfig (dir : Text) :
    Fails (Id.run (discoverConfig files dir))
      ↔ Id.run (files.isPresent (Path.join dir configName))
        ∧ IsUnusable files (Path.join dir configName) := by
  unfold discoverConfig
  simp only [Id.run_bind, apply_ite Id.run, Id.run_pure]
  split
  next hpresent => simp only [fails_map, fails_loadConfig, hpresent, true_and]
  next habsent => simp [not_fails_ok, habsent]

theorem fails_settingsOf (named : Option Text) :
    Fails (Id.run (settingsOf files named))
      ↔ match named with
        | some path => IsUnusable files path
        | none =>
          Id.run (files.isPresent (Path.join ['.'] configName))
            ∧ IsUnusable files (Path.join ['.'] configName) := by
  unfold settingsOf
  cases named with
  | some path => simp only [Id.run_bind, Id.run_pure, fails_mapError, fails_loadConfig]
  | none =>
    rw [← fails_discoverConfig]
    simp only [Id.run_bind]
    cases Id.run (discoverConfig files ['.']) with
    | error e => exact iff_of_true (fails_error _) (fails_error e)
    | ok found => exact iff_of_false (not_fails_ok _) (not_fails_ok found)

theorem fails_readPatterns {written : List Text} :
    Fails (KeyFilter.readPatterns written) ↔ ∃ s ∈ written, Pattern.parse? s = none := by
  induction written with
  | nil => exact iff_of_false (not_fails_ok _) (by simp)
  | cons s written ih =>
    rw [KeyFilter.readPatterns]
    cases hs : Pattern.parse? s with
    | none => exact iff_of_true (fails_error _) ⟨s, List.mem_cons_self, hs⟩
    | some p => simpa [fails_map, hs] using ih

theorem fails_chosenFilter (shared : SharedFlags) :
    Fails (chosenFilter shared config)
      ↔ ∃ s ∈ chosenList shared.ignoreRegex config.ignoreRegex, Pattern.parse? s = none := by
  unfold chosenFilter readFilter KeyFilter.build
  rw [fails_mapError, fails_map, fails_readPatterns]

theorem fails_chosenSeverity (own : ScanFlags) :
    Fails (chosenSeverity own config)
      ↔ own.minSeverity = none ∧ ∃ name, config.minSeverity = some name
          ∧ Severity.ofName? (Severity.normalName name) = none := by
  unfold chosenSeverity readSeverity
  cases own.minSeverity with
  | some severity => simp [not_fails_ok]
  | none =>
    cases config.minSeverity with
    | none => simp [not_fails_ok]
    | some name =>
      cases hname : Severity.ofName? (Severity.normalName name) with
      | none => simp [fails_error, hname]
      | some severity => simp [not_fails_ok, hname]

theorem fails_collect (s : SourceSearch) :
    Fails (Id.run (s.collect files)) ↔ Id.run (files.isDirectory s.root) = false := by
  unfold SourceSearch.collect
  simp only [Id.run_bind]
  cases Id.run (files.isDirectory s.root) with
  | false => exact iff_of_true (fails_error _) rfl
  | true => exact iff_of_false (not_fails_ok _) nofun

theorem root_searchOf (own : ScanFlags) : (searchOf config own).root = own.directory := by
  unfold searchOf SourceSearch.withExtensions
  split <;> rfl

theorem fails_comparedReport (shared : SharedFlags) :
    Fails (comparedReport files now config shared) ↔ Fails (chosenFilter shared config) := by
  unfold comparedReport
  rw [fails_bind_iff_or (p := False) fun filter => ?_, fails_mapError, or_false]
  exact iff_of_false (not_fails_ok _) id

theorem fails_scannedReport (shared : SharedFlags) (own : ScanFlags) :
    Fails (scannedReport files now config shared own)
      ↔ Fails (chosenFilter shared config)
        ∨ Id.run (files.isDirectory own.directory) = false
        ∨ Fails (chosenSeverity own config) := by
  unfold scannedReport
  rw [fails_bind_iff_or fun filter => ?_, fails_mapError]
  rw [fails_bind_iff_or fun sources => ?_, fails_mapError, fails_collect, root_searchOf]
  rw [fails_bind_iff_or (p := False) fun severity => ?_, fails_mapError, or_false]
  exact iff_of_false (not_fails_ok _) id

theorem Command.fails_account_of_chosenFilter {command : Command}
    (h : Fails (chosenFilter command.shared config)) :
    Fails (command.account files now config) := by
  cases command with
  | compare shared => exact fails_map.mpr ((fails_comparedReport ..).mpr h)
  | scan shared own => exact fails_map.mpr ((fails_scannedReport ..).mpr (Or.inl h))

/-- A run has nothing to say just if it cannot be made. -/
theorem Invocation.fails_account (i : Invocation) :
    Fails (i.account files now) ↔ CannotRun files i := by
  unfold Invocation.account
  simp only [fails_bind, fails_map]
  constructor
  · intro h
    rcases h with hsettings | ⟨c, hc, hcommand⟩
    · rw [fails_settingsOf] at hsettings
      cases hconfig : i.config with
      | none =>
        rw [hconfig] at hsettings
        exact .usualConfig hconfig hsettings.1 hsettings.2
      | some path =>
        rw [hconfig] at hsettings
        exact .namedConfig hconfig hsettings
    · cases hi : i.command with
      | compare shared =>
        rw [hi, Command.account, fails_map, fails_comparedReport, fails_chosenFilter] at hcommand
        rcases hcommand with ⟨pattern, hpattern, hbad⟩
        exact .pattern hc (by rw [hi]; exact hpattern) hbad
      | scan shared own =>
        rw [hi, Command.account, fails_map, fails_scannedReport, fails_chosenFilter,
          fails_chosenSeverity] at hcommand
        rcases hcommand with ⟨pattern, hpattern, hbad⟩ | hbad | ⟨hgiven, name, hname, hbad⟩
        · exact .pattern hc (by rw [hi]; exact hpattern) hbad
        · exact .root hi hbad
        · exact .severity hc hi hgiven hname hbad
  · intro h
    cases h with
    | namedConfig hpath hbad =>
      rw [fails_settingsOf, hpath]
      exact Or.inl hbad
    | usualConfig hpath hpresent hbad =>
      rw [fails_settingsOf, hpath]
      exact Or.inl ⟨hpresent, hbad⟩
    | pattern hconfig hpattern hbad =>
      refine Or.inr ⟨_, hconfig, Command.fails_account_of_chosenFilter files now _ ?_⟩
      exact (fails_chosenFilter ..).mpr ⟨_, hpattern, hbad⟩
    | root hcommand hbad =>
      -- the directory is looked at only if there are settings, but without them the run fails too
      cases hsettings : Id.run (settingsOf files i.config) with
      | error e => exact Or.inl (fails_error e)
      | ok c =>
        refine Or.inr ⟨c, rfl, ?_⟩
        rw [hcommand]
        exact fails_map.mpr ((fails_scannedReport ..).mpr (Or.inr (Or.inl hbad)))
    | severity hconfig hcommand hgiven hname hbad =>
      refine Or.inr ⟨_, hconfig, ?_⟩
      rw [hcommand]
      refine fails_map.mpr ((fails_scannedReport ..).mpr (Or.inr (Or.inr ?_)))
      exact (fails_chosenSeverity ..).mpr ⟨hgiven, _, hname, hbad⟩

end

/-! ## 3. What the switches change -/

theorem shared_adding (f : ReportFlag) (i : Invocation) :
    (i.adding f).command.shared = f.turnOn i.command.shared := by
  cases hcommand : i.command <;> simp only [Invocation.adding, hcommand] <;> rfl

section

variable (shared : SharedFlags) (x : Except (Text × Failure) (Config × Account))

theorem exitCode_presented_json :
    (presented (ReportFlag.json.turnOn shared) x).exitCode = (presented shared x).exitCode := by
  rcases x with ⟨context, cause⟩ | ⟨config, a⟩ <;> rfl

theorem printed_presented_strict :
    (presented (ReportFlag.strict.turnOn shared) x).printed = (presented shared x).printed := by
  rcases x with ⟨context, cause⟩ | ⟨config, a⟩ <;> rfl

/-- A strict run fails by its warnings too. -/
theorem exitCode_presented_strict :
    (presented (ReportFlag.strict.turnOn shared) x).exitCode = (presented shared x).exitCode
      ∨ (presented shared x).exitCode = 0
        ∧ (presented (ReportFlag.strict.turnOn shared) x).exitCode = 1 := by
  rcases x with ⟨context, cause⟩ | ⟨config, a⟩
  · exact Or.inl rfl
  · have hcode (shared : SharedFlags) : (a.outcome config shared).exitCode
        = if a.hasErrors || (isStrict shared config && a.hasWarnings) then 1 else 0 := rfl
    have hstrict : isStrict (ReportFlag.strict.turnOn shared) config = true := rfl
    rw [presented, presented, hcode, hcode, hstrict]
    cases a.hasErrors <;> cases a.hasWarnings <;> cases isStrict shared config <;> simp

/-- A failure does not depend on the options. -/
theorem exists_presented_eq_failure (h : Fails x) :
    ∃ context cause, ∀ shared, presented shared x = .failure context cause := by
  rcases h with ⟨⟨context, cause⟩, rfl⟩
  exact ⟨context, cause, fun _ => rfl⟩

theorem fails_of_presented_eq_failure {context : Text} {cause : Failure}
    (h : presented shared x = .failure context cause) : Fails x := by
  rcases x with e | ⟨config, a⟩
  · exact fails_error e
  · cases h

end

/-! ## 4. Command lines with one more switch -/

/-- The second command line is the first with a switch put in before the end of the options, and it
asks for a run. -/
def Adds (f : ReportFlag) (arguments arguments' : List Text) : Prop :=
  ∃ before after, arguments = before ++ after ∧ arguments' = before ++ f.argument :: after
    ∧ "--".toList ∉ before ∧ ∃ j, Request.ofArguments arguments' = .run j

theorem Adds.exists_run {f : ReportFlag} {arguments arguments' : List Text}
    (h : Adds f arguments arguments') :
    ∃ i, Request.ofArguments arguments = .run i ∧ f.isOn i.command.shared = false
      ∧ Request.ofArguments arguments' = .run (i.adding f) := by
  rcases h with ⟨before, after, rfl, rfl, hbefore, j, hj⟩
  rcases ofArguments_insert hbefore hj with ⟨i, hi, hoff, rfl⟩
  exact ⟨i, hi, hoff, hj⟩

theorem exists_adds {f : ReportFlag} {arguments : List Text} {i : Invocation}
    (h : Request.ofArguments arguments = .run i) (hoff : f.isOn i.command.shared = false) :
    ∃ arguments', Adds f arguments arguments' := by
  rcases exists_ofArguments_insert h hoff with ⟨before, after, rfl, hbefore, hrun⟩
  exact ⟨_, before, after, rfl, rfl, hbefore, _, hrun⟩

theorem runCommandLine_eq (files : FileAccess Id) (now : Instant) {arguments : List Text}
    {i : Invocation} (h : Request.ofArguments arguments = .run i) :
    Id.run (runCommandLine files now arguments)
      = presented i.command.shared (i.account files now) := by
  unfold runCommandLine
  rw [h]
  exact i.run_eq files now

/-- With a switch there is as much to say as without it. -/
theorem Adds.exists_presented {f : ReportFlag} {arguments arguments' : List Text}
    (h : Adds f arguments arguments') (files : FileAccess Id) (now : Instant) :
    ∃ shared x, Id.run (runCommandLine files now arguments) = presented shared x
      ∧ Id.run (runCommandLine files now arguments') = presented (f.turnOn shared) x := by
  rcases h.exists_run with ⟨i, hi, -, hj⟩
  refine ⟨i.command.shared, i.account files now, runCommandLine_eq files now hi, ?_⟩
  rw [runCommandLine_eq files now hj, Invocation.account_adding, shared_adding]

/-- **How a report is given decides neither on the verdict nor on failures.**  A switch may be added
to every command line that asks for a run and lacks it, and then nothing else in what is asked for
changes.  With `--json` the exit code is the same; with `--strict` the output is the same, and an
exit code can change from 0 to 1 only.  A run that cannot be made prints nothing and exits with 1,
however many of the switches are added. -/
theorem run_adding (files : FileAccess Id) (now : Instant) :
    let outcome (arguments : List Text) := Id.run (runCommandLine files now arguments)
    (∀ f arguments arguments', Adds f arguments arguments' →
        ∃ i, Request.ofArguments arguments = .run i ∧ f.isOn i.command.shared = false
          ∧ Request.ofArguments arguments' = .run (i.adding f))
      ∧ (∀ f arguments i, Request.ofArguments arguments = .run i →
          f.isOn i.command.shared = false → ∃ arguments', Adds f arguments arguments')
      ∧ (∀ arguments arguments', Adds .json arguments arguments' →
          (outcome arguments').exitCode = (outcome arguments).exitCode)
      ∧ (∀ arguments arguments', Adds .strict arguments arguments' →
          (outcome arguments').printed = (outcome arguments).printed
            ∧ ((outcome arguments').exitCode = (outcome arguments).exitCode
              ∨ (outcome arguments).exitCode = 0 ∧ (outcome arguments').exitCode = 1))
      ∧ ∀ arguments i, Request.ofArguments arguments = .run i →
          (CannotRun files i ↔ ∃ context cause, outcome arguments = .failure context cause)
            ∧ (CannotRun files i →
                (outcome arguments).exitCode = 1 ∧ (outcome arguments).printed = []
                  ∧ ∀ arguments', Relation.ReflTransGen (fun a b => ∃ f, Adds f a b) arguments
                      arguments' → outcome arguments' = outcome arguments) := by
  intro outcome
  refine ⟨fun f a a' h => h.exists_run, fun f a i h hoff => exists_adds h hoff, ?_, ?_, ?_⟩
  · intro arguments arguments' h
    rcases h.exists_presented files now with ⟨shared, x, hx, hx'⟩
    simp only [outcome, hx, hx', exitCode_presented_json]
  · intro arguments arguments' h
    rcases h.exists_presented files now with ⟨shared, x, hx, hx'⟩
    simp only [outcome, hx, hx']
    exact ⟨printed_presented_strict shared x, exitCode_presented_strict shared x⟩
  · intro arguments i hi
    have hfails : CannotRun files i
        ↔ ∃ context cause, outcome arguments = .failure context cause := by
      rw [← i.fails_account files now]
      simp only [outcome, runCommandLine_eq files now hi]
      constructor
      · intro h
        rcases exists_presented_eq_failure _ h with ⟨context, cause, heq⟩
        exact ⟨context, cause, heq _⟩
      · rintro ⟨context, cause, heq⟩
        exact fails_of_presented_eq_failure _ _ heq
    refine ⟨hfails, fun hcannot => ?_⟩
    rcases hfails.mp hcannot with ⟨context, cause, hfailure⟩
    refine ⟨by rw [hfailure]; rfl, by rw [hfailure]; rfl, fun arguments' hadds => ?_⟩
    -- one more switch leaves a failure as it is
    induction hadds with
    | refl => rfl
    | tail _ hone ih =>
      rcases hone with ⟨f, hone⟩
      rcases hone.exists_presented files now with ⟨shared, x, hx, hx'⟩
      have hmiddle : presented shared x = .failure context cause := by
        rw [← hx]
        exact ih.trans hfailure
      rcases exists_presented_eq_failure _ (fails_of_presented_eq_failure _ _ hmiddle) with
        ⟨_, _, hall⟩
      rw [hfailure, ← hmiddle]
      exact hx'.trans ((hall _).trans (hall _).symm)

/-- A scan of a directory that is not there fails in the same way with both switches. -/
theorem run_adding_noDirectory :
    let files := (Tree.directory []).access
    let now := Instant.ofSeconds 0 0
    let plain := ["scan".toList, "nope".toList]
    let asJson := ["scan".toList, "--json".toList, "nope".toList]
    let both := ["scan".toList, "--json".toList, "--strict".toList, "nope".toList]
    let i : Invocation := ⟨none, .scan noSharedFlags ⟨"nope".toList, [], none, none⟩⟩
    Request.ofArguments plain = .run i ∧ CannotRun files i ∧ Adds .json plain asJson
      ∧ Adds .strict asJson both
      ∧ (Id.run (runCommandLine files now plain)).exitCode = 1
      ∧ (Id.run (runCommandLine files now plain)).printed = []
      ∧ Id.run (runCommandLine files now both) = Id.run (runCommandLine files now plain) := by
  intro files now plain asJson both i
  have hplain : Request.ofArguments plain = .run i := by decide +kernel
  have hcannot : CannotRun files i := .root rfl (by decide +kernel)
  have hjson : Adds .json plain asJson :=
    ⟨["scan".toList], ["nope".toList], rfl, rfl, by decide, i.adding .json, by decide +kernel⟩
  have hboth : Adds .strict asJson both :=
    ⟨["scan".toList, "--json".toList], ["nope".toList], rfl, rfl, by decide,
      (i.adding .json).adding .strict, by decide +kernel⟩
  have hruns := ((run_adding files now).2.2.2.2 plain i hplain).2 hcannot
  exact ⟨hplain, hcannot, hjson, hboth, hruns.1, hruns.2.1,
    hruns.2.2 both (.tail (.single ⟨.json, hjson⟩) ⟨.strict, hboth⟩)⟩

end EnvAudit
