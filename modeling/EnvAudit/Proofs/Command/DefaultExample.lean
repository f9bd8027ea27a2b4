import EnvAudit.Files.Tree
import EnvAudit.Proofs.Command.Outcome
import EnvAudit.Proofs.Files.Entry

/-!
# The default example

Without a path to an example, a comparison resolves `.env.example` and so finds the file in any
letter case.  A scan first asks whether there is a file of just that name, and only then resolves
its path.  `defaultExample_read_iff` says when both read the same file.
-/

namespace EnvAudit

open PathRules (exact)

/-! ## 1. The only entry of a name -/

/-- The entries that are shown with that name, letter case aside. -/
def namedAlike (es : List (FileName × Tree)) (wanted : Text) : List (FileName × Tree) :=
  es.filter fun e => Text.lower e.1.shown == Text.lower wanted

section

variable {es : List (FileName × Tree)} {wanted : Text} {name : FileName} {only : Tree}

/-- Where one entry is named alike, no other is found by such a name. -/
theorem lookup_of_namedAlike (h : namedAlike es wanted = [(name, only)]) {n : FileName}
    (hn : Text.lower n.shown = Text.lower wanted) :
    exact.lookup es n = if name = n then some only else none := by
  have halike : exact.lookup (namedAlike es wanted) n = exact.lookup es n := by
    unfold namedAlike PathRules.lookup
    rw [List.find?_filter]
    refine congrArg _ (congrArg (List.find? · es) (funext fun e => ?_))
    by_cases he : e.1 = n
    · simp [he, hn]
    · simp [exact, he]
  rw [← halike, h]
  by_cases hname : name = n <;> simp [PathRules.lookup, exact, hname]

theorem anyCase?_of_namedAlike (h : namedAlike es wanted = [(name, only)]) :
    (Tree.directory es).anyCase? wanted = some only := by
  have hfirst : es.find? (fun e => Text.lower e.1.shown == Text.lower wanted)
      = some (name, only) := by
    rw [← List.head?_filter]
    exact congrArg List.head? h
  have hname : Text.lower name.shown = Text.lower wanted := by
    simpa using List.find?_some hfirst
  unfold Tree.anyCase? Tree.entries
  rw [lookup_of_namedAlike h (by rw [FileName.shown_ofText]), hfirst, Option.bind_some,
    lookup_of_namedAlike h hname, if_pos rfl]
  split <;> rfl

end

/-! ## 2. Texts that are read -/

theorem textOrEmpty_access (t : Tree) (p : Place) :
    t.access.textOrEmpty p = (((t.find? p).bind Tree.content?).bind Text.ofUtf8?).getD [] :=
  rfl

/-- However a path is spelled, the text that is read through it is that of the entry. -/
theorem resolvedText_of_leadsTo {t d : Tree} {path name : Text} (h : t.LeadsTo path d name) :
    resolvedText t.access path
      = (((d.anyCase? name).bind Tree.content?).bind Text.ofUtf8?).getD [] := by
  show t.access.textOrEmpty (t.access.resolve path) = _
  rw [textOrEmpty_access, Tree.find?_resolve h]

theorem isEntryName_defaultExample : IsEntryName defaultExample :=
  isEntryName_ofText.mpr ⟨by decide, by decide, by decide, by decide⟩

theorem isEntryName_defaultEnv : IsEntryName defaultEnv :=
  isEntryName_ofText.mpr ⟨by decide, by decide, by decide, by decide⟩

section

variable {es : List (FileName × Tree)} {config config' : Config} {shared shared' : SharedFlags}
  {dir : Text}

/-- The env file of a comparison is that of a scan. -/
theorem textOrEmpty_comparedPath
    (hdir : (Tree.directory es).find? dir = some (.directory es))
    (henv : (shared.envPath <|> config.envPath) = (shared'.envPath <|> config'.envPath)) :
    (Tree.directory es).access.textOrEmpty
        (comparedPath (Tree.directory es).access config shared)
      = resolvedText (Tree.directory es).access
          ((shared'.envPath <|> config'.envPath).getD (Path.join dir defaultEnv)) := by
  show resolvedText (Tree.directory es).access
    ((shared.envPath <|> config.envPath).getD defaultEnv) = _
  rw [henv]
  cases shared'.envPath <|> config'.envPath with
  | some path => rfl
  | none =>
    rw [Option.getD_none, Option.getD_none,
      resolvedText_of_leadsTo (Tree.leadsTo_name es isEntryName_defaultEnv),
      resolvedText_of_leadsTo (Tree.leadsTo_join hdir isEntryName_defaultEnv)]

variable {name : FileName} {text : Text} {bytes : ByteArray}
  (honly : namedAlike es defaultExample = [(name, .file bytes)])
  (htext : Text.ofUtf8? bytes = some text)

include honly htext

theorem resolvedText_defaultExample {path : Text}
    (h : (Tree.directory es).LeadsTo path (.directory es) defaultExample) :
    resolvedText (Tree.directory es).access path = text := by
  rw [resolvedText_of_leadsTo h, anyCase?_of_namedAlike honly]
  show (Text.ofUtf8? bytes).getD [] = text
  rw [htext]
  rfl

theorem textOrEmpty_expectedPath (hnone : (shared.examplePath <|> config.examplePath) = none) :
    (Tree.directory es).access.textOrEmpty
      (expectedPath (Tree.directory es).access config shared) = text := by
  unfold expectedPath
  rw [hnone]
  exact resolvedText_defaultExample honly htext (Tree.leadsTo_name es isEntryName_defaultExample)

/-- A scan takes the default example only under its very name. -/
theorem exampleText?_default (hdir : (Tree.directory es).find? dir = some (.directory es))
    (hnone : (shared.examplePath <|> config.examplePath) = none) :
    exampleText? (Tree.directory es).access config shared dir
      = if name = defaultExample then some text else none := by
  have hpath : (Tree.directory es).LeadsTo (Path.join dir defaultExample) (.directory es)
      defaultExample := Tree.leadsTo_join hdir isEntryName_defaultExample
  have hfile : (Tree.directory es).access.isFile (Path.join dir defaultExample)
      = decide (name = defaultExample) := by
    show (((Tree.directory es).find? _).map Tree.kind == some .file) = _
    rw [hpath.find?_eq]
    show ((exact.lookup es defaultExample).map Tree.kind == some .file) = _
    rw [lookup_of_namedAlike honly (by rw [FileName.shown_ofText])]
    by_cases hname : name = defaultExample <;> simp [hname, Tree.kind]
  have hread := resolvedText_defaultExample honly htext hpath
  -- whether there is a file is asked of the path as it is, so resolving it adds nothing
  unfold exampleText? exampleIn?
  rw [hnone]
  simp only [hfile]
  by_cases hname : name = defaultExample
  · rw [if_pos hname, decide_eq_true hname, ← hread]
    rfl
  · rw [if_neg hname, decide_eq_false hname]
    rfl

end

/-! ## 3. Both commands -/

/-- What a report says of keys that the env file and the example do not share. -/
def Difference.unshared (d : Difference) : List Text × List Text := (d.missing, d.extra)

section

variable {files : FileAccess Id} {now : Instant} {config : Config} {shared : SharedFlags}
  {own : ScanFlags}

theorem unshared_comparedReport {r : CompareReport}
    (h : comparedReport files now config shared = .ok r) :
    ∃ filter, chosenFilter shared config = .ok filter
      ∧ r.difference.unshared
        = (difference
            (filter.apply (.parse (files.textOrEmpty (comparedPath files config shared))))
            (filter.apply (.parse (files.textOrEmpty (expectedPath files config shared))))
            false).unshared := by
  unfold comparedReport at h
  cases hfilter : chosenFilter shared config with
  | error e =>
    rw [hfilter] at h
    cases h
  | ok filter =>
    rw [hfilter] at h
    cases h
    exact ⟨filter, rfl, rfl⟩

theorem unshared_scannedReport {r : ScanReport} {filter : KeyFilter}
    (h : scannedReport files now config shared own = .ok r)
    (hfilter : chosenFilter shared config = .ok filter) :
    r.exampleDifference.map Difference.unshared
      = (Id.run (exampleText? files config shared own.directory)).map fun exampleText =>
          (difference
            (filter.apply (.parse (resolvedText files
              ((shared.envPath <|> config.envPath).getD (Path.join own.directory defaultEnv)))))
            (filter.apply (.parse exampleText)) false).unshared := by
  unfold scannedReport at h
  rw [hfilter] at h
  obtain ⟨chosen, hchosen, h⟩ := exists_of_bind_eq_ok h
  obtain ⟨sources, -, h⟩ := exists_of_bind_eq_ok h
  obtain ⟨minSeverity, -, h⟩ := exists_of_bind_eq_ok h
  cases hchosen
  cases h
  unfold analyze
  simp only [Option.map_map]
  rfl

end

/-- **The default example of both commands**: in a directory with one file called `.env.example`,
letter case aside, a comparison without a path to an example reads that file.  A scan of the
directory reads it just if its name is `.env.example` to the letter, and has no example otherwise.
So for the same env file and filter both tell the same missing and extra keys just then. -/
theorem defaultExample_read_iff (es : List (FileName × Tree)) (config config' : Config)
    (shared shared' : SharedFlags) (own : ScanFlags) {name : FileName} {text : Text}
    {bytes : ByteArray}
    (hdir : (Tree.directory es).find? own.directory = some (.directory es))
    (honly : namedAlike es defaultExample = [(name, .file bytes)])
    (htext : Text.ofUtf8? bytes = some text)
    (hnone : (shared.examplePath <|> config.examplePath) = none)
    (hnone' : (shared'.examplePath <|> config'.examplePath) = none) :
    let files := (Tree.directory es).access
    let read := files.textOrEmpty (expectedPath files config shared)
    let found := Id.run (exampleText? files config' shared' own.directory)
    read = text
      ∧ found = (if name = defaultExample then some text else none)
      ∧ (found = some read ↔ name = defaultExample)
      ∧ ∀ now now' compared scanned, comparedReport files now config shared = .ok compared →
          scannedReport files now' config' shared' own = .ok scanned →
          (shared.envPath <|> config.envPath) = (shared'.envPath <|> config'.envPath) →
          chosenFilter shared config = chosenFilter shared' config' →
          scanned.exampleDifference.map Difference.unshared
            = if name = defaultExample then some compared.difference.unshared else none := by
  intro files read found
  have hread : read = text := textOrEmpty_expectedPath honly htext hnone
  have hfound : found = if name = defaultExample then some text else none :=
    exampleText?_default honly htext hdir hnone'
  refine ⟨hread, hfound, ?_, ?_⟩
  · rw [hfound, hread]
    split <;> simp_all
  · intro now now' compared scanned hcompared hscanned henv hchosen
    obtain ⟨filter, hfilter, hunshared⟩ := unshared_comparedReport hcompared
    have henvText := textOrEmpty_comparedPath hdir henv
    -- both are differences from the same env map, whether or not values are checked
    rw [hunshared, unshared_scannedReport hscanned (hchosen ▸ hfilter), ← henvText]
    change found.map _ = if _ then some (difference _ (filter.apply (.parse read)) false).unshared
      else none
    rw [hfound, hread]
    split <;> rfl

/-- A directory with an env file, an example of that name and a source file. -/
def projectWith (name : Text) : List (FileName × Tree) :=
  [(".env".toList, .ofText "A=1\nB=2\n".toList), (name, .ofText "A=\n".toList),
    ("src".toList, .directory [("a.ts".toList, .ofText "process.env.A".toList)])]

/-- Under its very name both find the example, however the directory is spelled. -/
theorem defaultExample_read_lower :
    let es := projectWith ".env.example".toList
    let files := (Tree.directory es).access
    let own : ScanFlags := ⟨"src/..".toList, [], none, none⟩
    let now := Instant.ofSeconds 0 0
    ∃ compared scanned, comparedReport files now .default noSharedFlags = .ok compared
      ∧ scannedReport files now .default noSharedFlags own = .ok scanned
      ∧ exampleText? files .default noSharedFlags own.directory = some "A=\n".toList
      ∧ scanned.exampleDifference.map Difference.unshared
          = some compared.difference.unshared := by
  intro es files own now
  have hcompares : (comparedReport files now .default noSharedFlags).toOption.isSome := by
    decide +kernel
  have hscans : (scannedReport files now .default noSharedFlags own).toOption.isSome := by
    decide +kernel
  obtain ⟨compared, hcompared⟩ := Option.isSome_iff_exists.mp hcompares
  obtain ⟨scanned, hscanned⟩ := Option.isSome_iff_exists.mp hscans
  replace hcompared := eq_ok_of_toOption hcompared
  replace hscanned := eq_ok_of_toOption hscanned
  have honly : namedAlike es defaultExample
      = [(FileName.ofText ".env.example".toList, .file (String.ofList "A=\n".toList).toUTF8)] :=
    rfl
  have htext : Text.ofUtf8? (String.ofList "A=\n".toList).toUTF8 = some "A=\n".toList := rfl
  have hboth := defaultExample_read_iff es .default .default noSharedFlags noSharedFlags own rfl
    honly htext rfl rfl
  exact ⟨compared, scanned, hcompared, hscanned, hboth.2.1,
    hboth.2.2.2 now now compared scanned hcompared hscanned rfl rfl⟩

/-- The comparison reads `.ENV.EXAMPLE` and tells that `B` is extra; the scan has no example. -/
theorem defaultExample_not_read_upper :
    let es := projectWith ".ENV.EXAMPLE".toList
    let files := (Tree.directory es).access
    let own : ScanFlags := ⟨".".toList, [], none, none⟩
    let now := Instant.ofSeconds 0 0
    (Tree.directory es).find? own.directory = some (.directory es)
      ∧ namedAlike es defaultExample
          = [(FileName.ofText ".ENV.EXAMPLE".toList, .ofText "A=\n".toList)]
      ∧ Id.run (files.textOrEmpty (expectedPath files .default noSharedFlags)) = "A=\n".toList
      ∧ Id.run (exampleText? files .default noSharedFlags own.directory) = none
      ∧ (comparedReport files now .default noSharedFlags).toOption.map
          (fun r => r.difference.unshared) = some ([], ["B".toList])
      ∧ (scannedReport files now .default noSharedFlags own).toOption.map
          (fun r => r.exampleDifference.map Difference.unshared) = some none :=
  ⟨rfl, rfl, by decide +kernel, by decide +kernel, by decide +kernel, by decide +kernel⟩

end EnvAudit
