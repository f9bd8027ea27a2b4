import EnvAudit.Proofs.Filter.Checks
import EnvAudit.Proofs.Report.Score

/-!
# Comparing under a key filter

A comparison takes the ignored keys out before its checks run.  `compareFiles_filter` says that it
might as well take them out of the finished report: list by list, and in the same order, the report
under a filter is the report under the empty filter without the entries of ignored keys.  A wider
filter therefore never makes a report worse.
-/

namespace EnvAudit

/-! ## 1. A report that is part of another -/

namespace CompareReport

/-- The lists of one report are those of another without the entries of keys that are not kept. -/
structure IsPart (keep : Text → Bool) (part whole : CompareReport) : Prop where
  missing : part.difference.missing = whole.difference.missing.filter keep
  extra : part.difference.extra = whole.difference.extra.filter keep
  valueMismatches : part.difference.valueMismatches
    = whole.difference.valueMismatches.filter fun m => keep m.key
  envDuplicates : part.envDuplicates = whole.envDuplicates.filter fun d => keep d.key
  exampleDuplicates : part.exampleDuplicates = whole.exampleDuplicates.filter fun d => keep d.key
  emptyKeys : part.emptyKeys = whole.emptyKeys.filter keep
  misnamed : part.misnamed = whole.misnamed.filter fun m => keep m.key
  lookAlikes : part.lookAlikes = whole.lookAlikes.filter fun l => keep l.key1 && keep l.key2
  exampleSecrets : part.exampleSecrets = whole.exampleSecrets.filter fun s => keep s.key
  expiries : part.expiries = whole.expiries.filter fun e => keep e.key

/-- Every key that the report names. -/
def keys (r : CompareReport) : List Text :=
  r.difference.missing ++ r.difference.extra ++ r.difference.valueMismatches.map (·.key)
    ++ r.envDuplicates.map (·.key) ++ r.exampleDuplicates.map (·.key) ++ r.emptyKeys
    ++ r.misnamed.map (·.key) ++ r.lookAlikes.map (·.key1) ++ r.lookAlikes.map (·.key2)
    ++ r.exampleSecrets.map (·.key) ++ r.expiries.map (·.key)

namespace IsPart

variable {keep keep' : Text → Bool} {part part' whole : CompareReport}

theorem keep_of_mem_keys (h : part.IsPart keep whole) {key : Text} (hk : key ∈ part.keys) :
    keep key := by
  simp only [keys, h.missing, h.extra, h.valueMismatches, h.envDuplicates, h.exampleDuplicates,
    h.emptyKeys, h.misnamed, h.lookAlikes, h.exampleSecrets, h.expiries, List.mem_append,
    List.mem_map, List.mem_filter, Bool.and_eq_true] at hk
  grind

/-- Of two parts of one report, the one that keeps fewer keys is a part of the other. -/
theorem narrow (h : part.IsPart keep whole) (h' : part'.IsPart keep' whole)
    (hle : ∀ key, keep' key → keep key) : part'.IsPart keep' part where
  missing := eq_filter_of_imp h.missing h'.missing hle
  extra := eq_filter_of_imp h.extra h'.extra hle
  valueMismatches := eq_filter_of_imp h.valueMismatches h'.valueMismatches fun m => hle m.key
  envDuplicates := eq_filter_of_imp h.envDuplicates h'.envDuplicates fun d => hle d.key
  exampleDuplicates :=
    eq_filter_of_imp h.exampleDuplicates h'.exampleDuplicates fun d => hle d.key
  emptyKeys := eq_filter_of_imp h.emptyKeys h'.emptyKeys hle
  misnamed := eq_filter_of_imp h.misnamed h'.misnamed fun m => hle m.key
  lookAlikes := by
    refine eq_filter_of_imp h.lookAlikes h'.lookAlikes fun l hl => ?_
    rw [Bool.and_eq_true] at hl ⊢
    exact hl.imp (hle l.key1) (hle l.key2)
  exampleSecrets := eq_filter_of_imp h.exampleSecrets h'.exampleSecrets fun s => hle s.key
  expiries := eq_filter_of_imp h.expiries h'.expiries fun e => hle e.key

theorem counts_le (h : part.IsPart keep whole) : part.counts ≤ whole.counts := by
  have hmissing := length_le_of_eq_filter h.missing
  have huppercase := length_le_of_eq_filter h.misnamed
  have hsecrets := length_le_of_eq_filter h.exampleSecrets
  have hexpiries := length_le_of_eq_filter h.expiries
  have hlookAlikes := length_le_of_eq_filter h.lookAlikes
  show List.Forall₂ (· ≤ ·) part.counts.toList whole.counts.toList
  simp only [counts, ByFinding.zero, ByFinding.toList, List.forall₂_cons, Nat.le_refl, true_and,
    hmissing, huppercase, hsecrets, hexpiries, hlookAlikes, List.Forall₂.nil]

theorem hasErrors (h : part.IsPart keep whole) (herr : part.hasErrors) : whole.hasErrors := by
  have hmissing := isEmpty_of_eq_filter h.missing
  unfold CompareReport.hasErrors at herr ⊢
  rw [Bool.or_eq_true] at herr ⊢
  refine herr.imp ?_ (any_of_eq_filter h.exampleSecrets)
  grind

theorem hasWarnings (h : part.IsPart keep whole) (hwarn : part.hasWarnings) :
    whole.hasWarnings := by
  by_contra hnone
  -- no list of the whole report has an entry, so no list of the part has one
  simp only [CompareReport.hasWarnings, Difference.isClean, Bool.or_eq_true, Bool.not_eq_true',
    Bool.and_eq_false_iff, not_or, Bool.not_eq_false] at hnone
  rcases hnone with
    ⟨⟨⟨⟨⟨⟨⟨⟨⟨hmissing, hextra⟩, hvalues⟩, henv⟩, hexample⟩, hempty⟩, hname⟩, hlook⟩,
      hsecret⟩, hexpiry⟩
  simp only [CompareReport.hasWarnings, Difference.isClean, isEmpty_of_eq_filter h.missing hmissing,
    isEmpty_of_eq_filter h.extra hextra, isEmpty_of_eq_filter h.valueMismatches hvalues,
    isEmpty_of_eq_filter h.envDuplicates henv, isEmpty_of_eq_filter h.exampleDuplicates hexample,
    isEmpty_of_eq_filter h.emptyKeys hempty, isEmpty_of_eq_filter h.misnamed hname,
    isEmpty_of_eq_filter h.lookAlikes hlook, isEmpty_of_eq_filter h.exampleSecrets hsecret,
    isEmpty_of_eq_filter h.expiries hexpiry] at hwarn
  cases hwarn

end IsPart

end CompareReport

/-! ## 2. The report under a filter -/

section

variable (envText exampleText : Text) (opts : CompareOptions) (f : KeyFilter)

theorem compareFiles_difference :
    (compareFiles envText exampleText { opts with filter := f }).difference
      = (compareFiles envText exampleText { opts with filter := .empty }).difference.restrict
          f.keeps := by
  simp only [compareFiles, KeyFilter.apply_empty]
  exact difference_filterKeys _ _ opts.checkValues

theorem compareFiles_isPart :
    (compareFiles envText exampleText { opts with filter := f }).IsPart f.keeps
      (compareFiles envText exampleText { opts with filter := .empty }) where
  missing := congrArg Difference.missing (compareFiles_difference envText exampleText opts f)
  extra := congrArg Difference.extra (compareFiles_difference envText exampleText opts f)
  valueMismatches :=
    congrArg Difference.valueMismatches (compareFiles_difference envText exampleText opts f)
  envDuplicates := by
    simp only [compareFiles, keptDuplicates_empty]
    rfl
  exampleDuplicates := by
    simp only [compareFiles, keptDuplicates_empty]
    rfl
  emptyKeys := by
    simp only [compareFiles, KeyFilter.apply_empty]
    exact emptyKeys_filterKeys _
  misnamed := by
    simp only [compareFiles, KeyFilter.apply_empty]
    rw [← misnamed_filter, ← firsts_keys_filterKeys]
    rfl
  lookAlikes := by
    simp only [compareFiles, KeyFilter.apply_empty]
    rw [← lookAlikes_filter, ← firsts_keys_filterKeys]
    rfl
  exampleSecrets := by
    simp only [compareFiles, KeyFilter.apply_empty]
    exact exampleSecrets_filterKeys _
  expiries := by
    simp only [compareFiles, keptExpiries_empty]
    rfl

/-- Filtering before the checks is filtering after them.  The lists are those of the report under
the empty filter less the ignored keys, the statistics count what is left, and no ignored key is
named anywhere; under a wider filter the score is no lower, and there are no errors or warnings
unless there were some before. -/
theorem compareFiles_filter :
    let report (f : KeyFilter) := compareFiles envText exampleText { opts with filter := f }
    let env := EnvMap.parse envText
    let expected := EnvMap.parse exampleText
    (report f).IsPart f.keeps (report .empty)
      ∧ (report f).stats =
          { envCount := (env.keys.filter f.keeps).length
            exampleCount := (expected.keys.filter f.keeps).length
            sharedCount := ((env.keys.filter expected.contains).filter f.keeps).length
            duplicateCount := excess (report f).envDuplicates + excess (report f).exampleDuplicates
            valueMismatchCount := (report f).difference.valueMismatches.length
            scan := none }
      ∧ (∀ key ∈ (report f).keys, f.ignores key = false)
      ∧ ∀ wider, f ≤ wider →
          (report f).healthScore ≤ (report wider).healthScore
            ∧ ((report wider).hasErrors → (report f).hasErrors)
            ∧ ((report wider).hasWarnings → (report f).hasWarnings) := by
  intro report env expected
  have hpart : ∀ g, (report g).IsPart g.keeps (report .empty) :=
    compareFiles_isPart envText exampleText opts
  refine ⟨hpart f, ?_, ?_, ?_⟩
  · simp only [report, compareFiles, statsOf, KeyFilter.apply, EnvMap.size_eq_length_keys,
      EnvMap.keys_filterKeys, sharedCount_filterKeys, env, expected]
  · intro key hkey
    simpa [KeyFilter.keeps] using (hpart f).keep_of_mem_keys hkey
  · intro wider hle
    have hnarrow : (report wider).IsPart wider.keeps (report f) :=
      (hpart f).narrow (hpart wider) fun _ => KeyFilter.keeps_of_le hle
    have hscore := healthScore_le hnarrow.counts_le opts.weights
    simp only [report, compareFiles_healthScore] at hscore ⊢
    exact ⟨hscore, hnarrow.hasErrors, hnarrow.hasWarnings⟩

end

/-- Ignoring `PORT` as well takes the missing `PORT` out of the report and leaves `port`, which is
badly spelled. -/
theorem compareFiles_filter_port :
    let report (f : KeyFilter) := compareFiles "port=1\n".toList "HOST=\nPORT=\n".toList
      ⟨false, f, defaultWeights, .ofSeconds 0 0⟩
    let f : KeyFilter := ⟨["HOST".toList], []⟩
    let wider : KeyFilter := ⟨["HOST".toList, "PORT".toList], []⟩
    f ≤ wider ∧ (report f).healthScore ≤ (report wider).healthScore
      ∧ (report f).healthScore = 75 ∧ (report wider).healthScore = 98 := by
  intro report f wider
  have hle : f ≤ wider := f.le_append ["PORT".toList] []
  have hwider := (compareFiles_filter "port=1\n".toList "HOST=\nPORT=\n".toList
    ⟨false, f, defaultWeights, .ofSeconds 0 0⟩ f).2.2.2 wider hle
  exact ⟨hle, hwider.1, by decide +kernel, by decide +kernel⟩

end EnvAudit
