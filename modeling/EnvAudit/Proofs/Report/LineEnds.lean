import EnvAudit.Proofs.Lists
import EnvAudit.Proofs.Source.LineEnds
import EnvAudit.Report.Scan

/-!
# Line ends and byte order marks

A text may be written with other line ends, and an env file with a byte order mark in front.  The
passes over an env file look at its trimmed lines alone, and these are the same
(`trimmedLines_of_isRespelledEnv`).  With what the passes over source files find, both reports are
the same to the last field: `reports_respelled`.
-/

namespace EnvAudit

/-! ## 1. Other spellings of a text -/

/-- The same text, or the one with a carriage return before every line feed. -/
inductive IsRespelled (s : Text) : Text → Prop
  | same : IsRespelled s s
  | crlf : IsRespelled s (Text.crlf s)

/-- The same for an env file, which may also have a byte order mark put in front. -/
inductive IsRespelledEnv (s : Text) : Text → Prop
  | unmarked {t : Text} (h : IsRespelled s t) : IsRespelledEnv s t
  | marked {t : Text} (h : IsRespelled s t) : IsRespelledEnv s ('\uFEFF' :: t)

/-- The same file, perhaps with other line ends. -/
structure SourceFile.IsRespelled (file file' : SourceFile) : Prop where
  path_eq : file'.path = file.path
  content : EnvAudit.IsRespelled file.content file'.content

theorem IsRespelled.eq_of_overlooks {β : Type} {s t : Text} (h : IsRespelled s t) {ask : Text → β}
    (hask : Text.Overlooks Text.crlf ask) : ask t = ask s := by
  cases h with
  | same => rfl
  | crlf => exact hask s

/-! ## 2. Env files -/

/-- The lines of an env file as its passes see them. -/
def trimmedLines (raw : Text) : List Text := (envLines raw).map Text.trim

theorem assignments_eq_trimmedLines (raw : Text) :
    assignments raw = (trimmedLines raw).filterMap assignment? := by
  have htrim : ∀ line, assignment? (Text.trim line) = assignment? line := by
    intro line
    simp only [assignment?, Text.trim_trim]
  rw [trimmedLines, List.filterMap_map]
  exact List.filterMap_congr fun line _ => (htrim line).symm

theorem datedKeysFrom_map_trim (pending : Option Date) (ls : List Text) :
    datedKeysFrom pending (ls.map Text.trim) = datedKeysFrom pending ls := by
  induction ls generalizing pending with
  | nil => rfl
  | cons l ls ih => simp only [List.map_cons, datedKeysFrom, Text.trim_trim, ih]

theorem datedKeys_eq_trimmedLines (raw : Text) :
    datedKeys raw = datedKeysFrom none (trimmedLines raw) :=
  (datedKeysFrom_map_trim none (envLines raw)).symm

theorem envLines_mark (raw : Text) : envLines ('\uFEFF' :: raw) = envLines raw := rfl

theorem trimmedLines_crlf (raw : Text) : trimmedLines (Text.crlf raw) = trimmedLines raw := by
  have hmarks : (Text.crlf raw).dropWhile (· = '\uFEFF')
      = Text.crlf (raw.dropWhile (· = '\uFEFF')) :=
    Text.dropWhile_of_avoidsEnds Text.addsReturns_crlf (by decide) raw
  unfold trimmedLines envLines
  rw [hmarks]
  exact map_eq_map_of_forall₂ (Text.forall₂_lines_crlf _) fun _ _ => Text.trim_eq_of_gainsReturn

theorem trimmedLines_of_isRespelledEnv {raw raw' : Text} (h : IsRespelledEnv raw raw') :
    trimmedLines raw' = trimmedLines raw := by
  cases h with
  | unmarked h => exact h.eq_of_overlooks trimmedLines_crlf
  | marked h =>
    rw [trimmedLines, envLines_mark]
    exact h.eq_of_overlooks trimmedLines_crlf

namespace IsRespelledEnv

variable {raw raw' : Text}

theorem assignments_eq (h : IsRespelledEnv raw raw') : assignments raw' = assignments raw := by
  rw [assignments_eq_trimmedLines, assignments_eq_trimmedLines, trimmedLines_of_isRespelledEnv h]

theorem parse_eq (h : IsRespelledEnv raw raw') : EnvMap.parse raw' = EnvMap.parse raw := by
  rw [EnvMap.parse, EnvMap.parse, h.assignments_eq]

theorem keptDuplicates_eq (h : IsRespelledEnv raw raw') (f : KeyFilter) :
    keptDuplicates f raw' = keptDuplicates f raw := by
  unfold keptDuplicates duplicates
  rw [h.assignments_eq]

theorem keptExpiries_eq (h : IsRespelledEnv raw raw') (f : KeyFilter) (now : Instant) :
    keptExpiries f raw' now = keptExpiries f raw now := by
  unfold keptExpiries expiries
  rw [datedKeys_eq_trimmedLines, datedKeys_eq_trimmedLines, trimmedLines_of_isRespelledEnv h]

end IsRespelledEnv

/-! ## 3. Source files -/

section

variable {files files' : List SourceFile} (h : List.Forall₂ SourceFile.IsRespelled files files')
include h

theorem keptUsages_respelled (f : KeyFilter) : keptUsages f files' = keptUsages f files := by
  unfold keptUsages
  apply flatMap_eq_flatMap_of_forall₂ h
  intro file file' hfile
  rw [hfile.path_eq, hfile.content.eq_of_overlooks (scanUsages_crlf file.path)]

theorem keptSecrets_respelled (opts : ScanOptions) :
    keptSecrets opts files' = keptSecrets opts files := by
  unfold keptSecrets
  apply flatMap_eq_flatMap_of_forall₂ h
  intro file file' hfile
  rw [hfile.path_eq, hfile.content.eq_of_overlooks (sourceSecrets_crlf opts.limits file.path)]

theorem rulesFor_respelled (framework : Framework) :
    rulesFor framework files' = rulesFor framework files := by
  have hclient : List.Forall₂ SourceFile.IsRespelled
      (files.filter fun f => isClientComponent f.content)
      (files'.filter fun f => isClientComponent f.content) := by
    refine List.rel_filter (fun file file' hfile => ?_) h
    show isClientComponent file.content ↔ isClientComponent file'.content
    rw [hfile.content.eq_of_overlooks isClientComponent_crlf]
  have hpaths := map_eq_map_of_forall₂ hclient fun _ _ hfile => hfile.path_eq
  rw [rulesFor, rulesFor, hpaths]

end

/-! ## 4. The reports -/

theorem compareFiles_respelled {envText envText' exampleText exampleText' : Text}
    (henv : IsRespelledEnv envText envText') (hexample : IsRespelledEnv exampleText exampleText')
    (opts : CompareOptions) :
    compareFiles envText' exampleText' opts = compareFiles envText exampleText opts := by
  simp only [compareFiles, henv.parse_eq, hexample.parse_eq, henv.keptDuplicates_eq,
    hexample.keptDuplicates_eq, henv.keptExpiries_eq]

theorem analyze_respelled {files files' : List SourceFile}
    (hfiles : List.Forall₂ SourceFile.IsRespelled files files') {envText envText' : Text}
    (henv : IsRespelledEnv envText envText') {exampleText exampleText' : Option Text}
    (hexample : Option.Rel IsRespelledEnv exampleText exampleText') (opts : ScanOptions) :
    analyze files' envText' exampleText' opts = analyze files envText exampleText opts := by
  have hparse : exampleText'.map EnvMap.parse = exampleText.map EnvMap.parse := by
    cases hexample with
    | none => rfl
    | some h => exact congrArg some h.parse_eq
  have hduplicates : exampleText'.map (keptDuplicates opts.filter)
      = exampleText.map (keptDuplicates opts.filter) := by
    cases hexample with
    | none => rfl
    | some h => exact congrArg some (h.keptDuplicates_eq opts.filter)
  have hexpected : (exampleText'.map fun t => opts.filter.apply (.parse t))
      = exampleText.map fun t => opts.filter.apply (.parse t) := by
    have hmap := congrArg (Option.map opts.filter.apply) hparse
    rwa [Option.map_map, Option.map_map] at hmap
  simp only [analyze, henv.parse_eq, henv.keptDuplicates_eq, henv.keptExpiries_eq, hexpected,
    hduplicates, keptUsages_respelled hfiles, keptSecrets_respelled hfiles,
    rulesFor_respelled hfiles, hfiles.length_eq]

/-- Line ends and byte order marks are noise.  With a carriage return before every line feed of the
env file, of the example or of source files, and with a byte order mark in front of the env file or
of the example, both reports are what they are without. -/
theorem reports_respelled {envText envText' exampleText exampleText' : Text}
    {files files' : List SourceFile} (henv : IsRespelledEnv envText envText')
    (hexample : IsRespelledEnv exampleText exampleText')
    (hfiles : List.Forall₂ SourceFile.IsRespelled files files') :
    (∀ opts, compareFiles envText' exampleText' opts = compareFiles envText exampleText opts)
      ∧ (∀ opts, analyze files' envText' none opts = analyze files envText none opts)
      ∧ ∀ opts, analyze files' envText' (some exampleText') opts
          = analyze files envText (some exampleText) opts :=
  ⟨compareFiles_respelled henv hexample, analyze_respelled hfiles henv .none,
    analyze_respelled hfiles henv (.some hexample)⟩

/-- An env file saved with a mark and with returns, and a client component saved with returns: the
date, the empty key, the logged name and the warnings about the client file are all still there. -/
theorem reports_respelled_client :
    let envText := "# @expire 2030-01-01\nTOKEN=a\nPORT=\n".toList
    let envText' := "\uFEFF# @expire 2030-01-01\r\nTOKEN=a\r\nPORT=\r\n".toList
    let exampleText := "HOST=b\n".toList
    let file : SourceFile :=
      ⟨"a.tsx".toList, "'use client'\nconsole.log(process.env.TOKEN)\n".toList⟩
    let file' : SourceFile :=
      ⟨"a.tsx".toList, "'use client'\r\nconsole.log(process.env.TOKEN)\r\n".toList⟩
    let compare : CompareOptions := ⟨true, .empty, defaultWeights, .ofSeconds 0 0⟩
    let scan : ScanOptions :=
      ⟨true, .empty, .low, {}, .nextJs, none, defaultWeights, .ofSeconds 0 0⟩
    let report := analyze [file'] envText' (some exampleText) scan
    IsRespelledEnv envText envText' ∧ IsRespelledEnv exampleText exampleText
      ∧ List.Forall₂ SourceFile.IsRespelled [file] [file']
      ∧ compareFiles envText' exampleText compare = compareFiles envText exampleText compare
      ∧ analyze [file'] envText' none scan = analyze [file] envText none scan
      ∧ report = analyze [file] envText (some exampleText) scan
      ∧ report.expiries.map (·.key) = ["TOKEN".toList]
      ∧ report.logged.map (·.line) = [2]
      ∧ report.frameworkWarnings.map (·.breach) = [.privateNameInClient] := by
  intro envText envText' exampleText file file' compare scan report
  have hmarked : envText' = '\uFEFF' :: Text.crlf envText := by decide
  have hcontent : file'.content = Text.crlf file.content := by decide
  have henv : IsRespelledEnv envText envText' := by
    rw [hmarked]
    exact .marked .crlf
  have hexample : IsRespelledEnv exampleText exampleText := .unmarked .same
  have hfile : file.IsRespelled file' := by
    refine ⟨rfl, ?_⟩
    rw [hcontent]
    exact .crlf
  have hfiles : List.Forall₂ SourceFile.IsRespelled [file] [file'] := .cons hfile .nil
  rcases reports_respelled henv hexample hfiles with ⟨hcompare, hscan, hboth⟩
  exact ⟨henv, hexample, hfiles, hcompare compare, hscan scan, hboth scan, by decide +kernel,
    by decide +kernel, by decide +kernel⟩

end EnvAudit
