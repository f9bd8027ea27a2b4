import EnvAudit.Proofs.Filter.Compare

/-!
# Scanning under a key filter

A scan takes the ignored keys out at many places: out of the maps before they are compared, out of
the usages while they are collected, out of the secrets, the repeated and the dated keys after they
are found.  `analyze_filter` says that all of this is the same as taking them out of the finished
report, and that a wider filter never makes a report worse.
-/

namespace EnvAudit

/-! ## 1. A report that is part of another -/

theorem countSeverity_le_of_eq_filter {xs ys : List SourceSecret} {p : SourceSecret → Bool}
    (h : xs = ys.filter p) (severity : Severity) :
    countSeverity severity xs ≤ countSeverity severity ys := by
  unfold countSeverity
  rw [h]
  exact (List.filter_sublist.filter _).length_le

theorem Difference.restrict_restrict_of_imp {keep keep' : Text → Bool}
    (h : ∀ key, keep' key → keep key) (d : Difference) :
    (d.restrict keep).restrict keep' = d.restrict keep' := by
  unfold restrict
  rw [← eq_filter_of_imp (w := d.missing) rfl rfl h, ← eq_filter_of_imp (w := d.extra) rfl rfl h,
    ← eq_filter_of_imp (w := d.valueMismatches) rfl rfl fun m => h m.key]

namespace ScanReport

/-- The lists of one report are those of another without the entries of keys that are not kept.  A
secret that no key is known for always stays. -/
structure IsPart (keep : Text → Bool) (part whole : ScanReport) : Prop where
  usages : part.usages = whole.usages.filter fun u => keep u.name
  missing : part.missing = whole.missing.filter keep
  unused : part.unused = whole.unused.filter keep
  secrets : part.secrets = whole.secrets.filter fun s => s.key.all keep
  logged : part.logged = whole.logged.filter fun u => keep u.name
  misnamed : part.misnamed = whole.misnamed.filter fun m => keep m.key
  frameworkWarnings :
    part.frameworkWarnings = whole.frameworkWarnings.filter fun w => keep w.name
  schemaWarnings : part.schemaWarnings = whole.schemaWarnings.filter fun w => keep w.name
  exampleSecrets : part.exampleSecrets = whole.exampleSecrets.filter fun s => keep s.key
  expiries : part.expiries = whole.expiries.filter fun e => keep e.key
  duplicates : part.duplicates = whole.duplicates.filter fun d => keep d.key
  lookAlikes : part.lookAlikes = whole.lookAlikes.filter fun l => keep l.key1 && keep l.key2
  exampleDifference : part.exampleDifference = whole.exampleDifference.map (·.restrict keep)

namespace IsPart

variable {keep keep' : Text → Bool} {part part' whole : ScanReport}

/-- Of two parts of one report, the one that keeps fewer keys is a part of the other. -/
theorem narrow (h : part.IsPart keep whole) (h' : part'.IsPart keep' whole)
    (hle : ∀ key, keep' key → keep key) : part'.IsPart keep' part where
  usages := eq_filter_of_imp h.usages h'.usages fun u => hle u.name
  missing := eq_filter_of_imp h.missing h'.missing hle
  unused := eq_filter_of_imp h.unused h'.unused hle
  secrets := by
    refine eq_filter_of_imp h.secrets h'.secrets fun s hs => ?_
    rw [Option.all_eq_true] at hs ⊢
    exact fun key hkey => hle key (hs key hkey)
  logged := eq_filter_of_imp h.logged h'.logged fun u => hle u.name
  misnamed := eq_filter_of_imp h.misnamed h'.misnamed fun m => hle m.key
  frameworkWarnings :=
    eq_filter_of_imp h.frameworkWarnings h'.frameworkWarnings fun w => hle w.name
  schemaWarnings := eq_filter_of_imp h.schemaWarnings h'.schemaWarnings fun w => hle w.name
  exampleSecrets := eq_filter_of_imp h.exampleSecrets h'.exampleSecrets fun s => hle s.key
  expiries := eq_filter_of_imp h.expiries h'.expiries fun e => hle e.key
  duplicates := eq_filter_of_imp h.duplicates h'.duplicates fun d => hle d.key
  lookAlikes := by
    refine eq_filter_of_imp h.lookAlikes h'.lookAlikes fun l hl => ?_
    rw [Bool.and_eq_true] at hl ⊢
    exact hl.imp (hle l.key1) (hle l.key2)
  exampleDifference := by
    rw [h.exampleDifference, h'.exampleDifference, Option.map_map]
    congr 1
    funext d
    exact (d.restrict_restrict_of_imp hle).symm

theorem counts_le (h : part.IsPart keep whole) : part.counts ≤ whole.counts := by
  have hhigh := countSeverity_le_of_eq_filter h.secrets .high
  have hmedium := countSeverity_le_of_eq_filter h.secrets .medium
  have hmissing := length_le_of_eq_filter h.missing
  have huppercase := length_le_of_eq_filter h.misnamed
  have hlogged := length_le_of_eq_filter h.logged
  have hunused := length_le_of_eq_filter h.unused
  have hframework := Nat.add_le_add (length_le_of_eq_filter h.frameworkWarnings)
    (length_le_of_eq_filter h.schemaWarnings)
  have hexample := length_le_of_eq_filter h.exampleSecrets
  have hexpiries := length_le_of_eq_filter h.expiries
  have hlookAlikes := length_le_of_eq_filter h.lookAlikes
  show List.Forall₂ (· ≤ ·) part.counts.toList whole.counts.toList
  simp only [counts, ByFinding.toList, List.forall₂_cons, true_and, hhigh, hmedium, hmissing,
    huppercase, hlogged, hunused, hframework, hexample, hexpiries, hlookAlikes, List.Forall₂.nil]

theorem hasErrors (h : part.IsPart keep whole) (herr : part.hasErrors) : whole.hasErrors := by
  have hmissing := isEmpty_of_eq_filter h.missing
  unfold ScanReport.hasErrors at herr ⊢
  simp only [Bool.or_eq_true] at herr ⊢
  refine herr.imp (Or.imp ?_ (any_of_eq_filter h.secrets)) (any_of_eq_filter h.exampleSecrets)
  grind

end IsPart

end ScanReport

/-! ## 2. What files hold, under a filter -/

theorem keptUsages_filter (f : KeyFilter) (files : List SourceFile) :
    keptUsages f files = (keptUsages .empty files).filter fun u => f.keeps u.name := by
  unfold keptUsages
  rw [List.filter_flatMap]
  simp only [List.filter_filter, KeyFilter.keeps_empty, Bool.and_true]

theorem usedNames_filter (f : KeyFilter) (files : List SourceFile) :
    firsts ((keptUsages f files).map (·.name))
      = (firsts ((keptUsages .empty files).map (·.name))).filter f.keeps := by
  rw [keptUsages_filter, ← firsts_filter, List.filter_map]
  rfl

theorem keptSecrets_filter (opts : ScanOptions) (f : KeyFilter) (files : List SourceFile) :
    keptSecrets { opts with filter := f } files
      = (keptSecrets { opts with filter := .empty } files).filter fun s => s.key.all f.keeps := by
  unfold keptSecrets
  rw [List.filter_flatMap]
  congr 1
  funext file
  rw [List.filter_filter]
  congr 1
  funext s
  -- a secret without a key is reported under every filter
  have hempty : s.key.all KeyFilter.empty.keeps = true := by
    rw [Option.all_eq_true]
    exact fun key _ => KeyFilter.keeps_empty key
  unfold reportsSecret
  rw [hempty, Bool.and_true, Bool.and_comm]

/-! ## 3. The report under a filter -/

section

variable (files : List SourceFile) (envText : Text) (exampleText : Option Text)
  (opts : ScanOptions) (f : KeyFilter)

theorem analyze_isPart :
    (analyze files envText exampleText { opts with filter := f }).IsPart f.keeps
      (analyze files envText exampleText { opts with filter := .empty }) where
  usages := keptUsages_filter f files
  missing := by
    simp only [analyze, KeyFilter.apply_empty, usedNames_filter f]
    exact filter_not_contains_filterKeys _ _
  unused := by
    simp only [analyze, KeyFilter.apply_empty, usedNames_filter f, KeyFilter.keys_apply]
    exact filter_not_contains_filter _ _
  secrets := keptSecrets_filter opts f files
  logged := by
    simp only [analyze]
    rw [keptUsages_filter f, List.filter_filter, List.filter_filter]
    simp only [Bool.and_comm]
  misnamed := by
    simp only [analyze, usedNames_filter f]
    exact misnamed_filter _
  frameworkWarnings := by
    simp only [analyze]
    rw [keptUsages_filter f]
    exact (rulesFor opts.framework files).flatMap_check_filter _
  schemaWarnings := by
    simp only [analyze]
    rw [keptUsages_filter f]
    cases opts.schema with
    | none => rfl
    | some schema => exact schema.checkAll_filter _
  exampleSecrets := by
    simp only [analyze, KeyFilter.apply_empty]
    cases exampleText with
    | none => rfl
    | some text => exact exampleSecrets_filterKeys _
  expiries := by
    simp only [analyze, keptExpiries_empty]
    rfl
  duplicates := by
    simp only [analyze, keptDuplicates_empty]
    rfl
  lookAlikes := by
    simp only [analyze, KeyFilter.apply_empty, KeyFilter.keys_apply]
    exact lookAlikes_filter _
  exampleDifference := by
    simp only [analyze, KeyFilter.apply_empty, Option.map_map]
    congr 1
    funext text
    exact difference_filterKeys _ _ opts.checkValues

/-- Filtering before the checks is filtering after them.  The lists are those of the report under
the empty filter less the entries of ignored keys, and the counts are those of what is left; under
a wider filter the score is no lower, and there are no errors unless there were some before. -/
theorem analyze_filter :
    let report (f : KeyFilter) := analyze files envText exampleText { opts with filter := f }
    let env := EnvMap.parse envText
    let expected := (exampleText.map EnvMap.parse).getD ∅
    (report f).IsPart f.keeps (report .empty)
      ∧ (report f).stats.scan = some
          { usages := ((report .empty).usages.filter fun u => f.keeps u.name).length
            names := ((firsts ((report .empty).usages.map (·.name))).filter f.keeps).length
            files := files.length }
      ∧ (report f).stats.envCount = (env.keys.filter f.keeps).length
      ∧ (report f).stats.exampleCount = (expected.keys.filter f.keeps).length
      ∧ (report f).stats.sharedCount
          = ((env.keys.filter expected.contains).filter f.keeps).length
      ∧ ∀ wider, f ≤ wider →
          (report f).healthScore ≤ (report wider).healthScore
            ∧ ((report wider).hasErrors → (report f).hasErrors) := by
  intro report env expected
  have hpart : ∀ g, (report g).IsPart g.keeps (report .empty) :=
    analyze_isPart files envText exampleText opts
  have hexpected : (exampleText.map fun text => f.apply (.parse text)).getD ∅
      = expected.filterKeys f.keeps := by
    cases exampleText <;> rfl
  refine ⟨hpart f, ?_, ?_, ?_, ?_, ?_⟩
  · have hnames := usedNames_filter f files
    have husages := (hpart f).usages
    simp only [report, analyze, statsOf] at husages ⊢
    rw [hnames, husages]
  · simp only [report, analyze, statsOf]
    rw [EnvMap.size_eq_length_keys, KeyFilter.keys_apply]
  · simp only [report, analyze, statsOf]
    rw [hexpected, EnvMap.size_eq_length_keys, EnvMap.keys_filterKeys]
  · simp only [report, analyze, statsOf]
    rw [hexpected]
    exact sharedCount_filterKeys env expected
  · -- both reports are parts of the unfiltered one, so one is a part of the other
    intro wider hle
    have hnarrow : (report wider).IsPart wider.keeps (report f) :=
      (hpart f).narrow (hpart wider) fun _ => KeyFilter.keeps_of_le hle
    have hscore := healthScore_le hnarrow.counts_le opts.weights
    simp only [report, analyze_healthScore] at hscore ⊢
    exact ⟨hscore, hnarrow.hasErrors⟩

end

/-- Ignoring `TOKEN` as well takes it out of the missing names, and with it the only error. -/
theorem analyze_filter_token :
    let file : SourceFile := ⟨"a.ts".toList, "f(process.env.TOKEN, process.env.PORT)".toList⟩
    let report (f : KeyFilter) := analyze [file] "PORT=1\nHOST=a\n".toList none
      ⟨false, f, .low, {}, .unknown, none, defaultWeights, .ofSeconds 0 0⟩
    let f : KeyFilter := ⟨["HOST".toList], []⟩
    let wider : KeyFilter := ⟨["HOST".toList, "TOKEN".toList], []⟩
    f ≤ wider ∧ (report f).healthScore ≤ (report wider).healthScore
      ∧ (report f).healthScore = 80 ∧ (report wider).healthScore = 100 := by
  intro file report f wider
  have hle : f ≤ wider := f.le_append ["TOKEN".toList] []
  have hwider := (analyze_filter [file] "PORT=1\nHOST=a\n".toList none
    ⟨false, f, .low, {}, .unknown, none, defaultWeights, .ofSeconds 0 0⟩ f).2.2.2.2.2 wider hle
  exact ⟨hle, hwider.1, by decide +kernel, by decide +kernel⟩

end EnvAudit
