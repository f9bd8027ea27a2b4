import Mathlib.Data.List.Count
import EnvAudit.Files.Tree
import EnvAudit.Proofs.Command.Outcome
import EnvAudit.Proofs.Env.Occurrences
import EnvAudit.Proofs.Report.Verdict

/-!
# Repeated keys and their number

A report counts repeated assignments and mismatched values in its statistics, and lists them as
well.  A comparison lists all that it counts.  A scan counts the repeated keys of its example too and
lists only those of the env file: `countsItsLists_iff` says for which scans the numbers and the lists
agree, and what the number is for all of them.
-/

namespace EnvAudit

/-! ## 1. Repeated keys that are kept -/

/-- The keys that a file assigns, without those that are ignored. -/
def assignedKeys (f : KeyFilter) (raw : Text) : List Text :=
  ((assignments raw).map Prod.fst).filter f.keeps

theorem keys_apply_parse (f : KeyFilter) (raw : Text) :
    (f.apply (.parse raw)).keys = firsts (assignedKeys f raw) := by
  rw [KeyFilter.keys_apply, EnvMap.parse, EnvMap.keys_ofList, assignedKeys, firsts_filter]

theorem keptDuplicates_eq_counts (f : KeyFilter) (raw : Text) :
    keptDuplicates f raw
      = ((firsts (assignedKeys f raw)).map fun k => ⟨k, (assignedKeys f raw).count k⟩).filter
          fun d => 1 < d.count := by
  -- an ignored key has no part in the count of another
  have hcount : ∀ k ∈ (firsts ((assignments raw).map Prod.fst)).filter f.keeps,
      Duplicate.mk k ((assignments raw).map Prod.fst |>.count k)
        = ⟨k, (assignedKeys f raw).count k⟩ := by
    intro k hk
    rw [assignedKeys, List.count_filter (List.mem_filter.mp hk).2]
  unfold keptDuplicates duplicates
  rw [assignedKeys, firsts_filter, ← assignedKeys, ← List.map_congr_left hcount,
    List.filter_filter]
  simp only [Bool.and_comm]
  rw [← List.filter_filter, List.filter_map]
  rfl

/-- Each assignment of a kept key is the first of its key, or in excess. -/
theorem excess_keptDuplicates (f : KeyFilter) (raw : Text) :
    excess (keptDuplicates f raw) + (f.apply (.parse raw)).size = (assignedKeys f raw).length := by
  have hpos : ∀ k ∈ firsts (assignedKeys f raw), 0 < (assignedKeys f raw).count k :=
    fun k hk => List.count_pos_iff.mpr (mem_firsts.mp hk)
  rw [keptDuplicates_eq_counts, EnvMap.size_eq_length_keys, keys_apply_parse, excess_filter hpos,
    totalWeight_count_firsts]

theorem excess_eq_zero_iff {ds : List Duplicate} (h : ∀ d ∈ ds, 1 < d.count) :
    excess ds = 0 ↔ ds = [] := by
  cases ds with
  | nil => exact iff_of_true rfl rfl
  | cons d ds =>
    have hd := h d List.mem_cons_self
    simp only [excess, totalWeight, reduceCtorEq, iff_false]
    omega

theorem excess_keptDuplicates_eq_zero_iff (f : KeyFilter) (raw : Text) :
    excess (keptDuplicates f raw) = 0 ↔ keptDuplicates f raw = [] := by
  apply excess_eq_zero_iff
  intro d hd
  rw [keptDuplicates_eq_counts] at hd
  exact of_decide_eq_true (List.mem_filter.mp hd).2

theorem keptDuplicates_eq_nil_iff (f : KeyFilter) (raw : Text) :
    keptDuplicates f raw = [] ↔ (assignedKeys f raw).Nodup := by
  rw [keptDuplicates_eq_counts, List.filter_eq_nil_iff, List.forall_mem_map,
    List.nodup_iff_count_le_one]
  constructor
  · intro h k
    -- only the keys that are assigned are tested, and another occurs no time
    by_cases hk : k ∈ assignedKeys f raw
    · simpa using h k (mem_firsts.mpr hk)
    · rw [List.count_eq_zero_of_not_mem hk]
      exact Nat.zero_le 1
  · intro h k _
    simpa using h k

/-! ## 2. Numbers and lists -/

/-- The numbers of a comparison are those of its own lists, and one above zero makes it a report
with warnings. -/
structure CompareReport.CountsItsLists (r : CompareReport) : Prop where
  duplicateCount : r.stats.duplicateCount = excess r.envDuplicates + excess r.exampleDuplicates
  valueMismatchCount : r.stats.valueMismatchCount = r.difference.valueMismatches.length
  warns : 0 < r.stats.duplicateCount ∨ 0 < r.stats.valueMismatchCount → r.hasWarnings

/-- The mismatches that a scan lists; without an example there are none. -/
def ScanReport.valueMismatches (r : ScanReport) : List ValueMismatch :=
  (r.exampleDifference.map (·.valueMismatches)).getD []

/-- The numbers of a scan are those of its own lists, and one above zero makes it a report with
warnings. -/
structure ScanReport.CountsItsLists (r : ScanReport) : Prop where
  duplicateCount : r.stats.duplicateCount = excess r.duplicates
  valueMismatchCount : r.stats.valueMismatchCount = r.valueMismatches.length
  warns : 0 < r.stats.duplicateCount ∨ 0 < r.stats.valueMismatchCount → r.hasWarnings

theorem ne_nil_of_excess_pos {ds : List Duplicate} (h : 0 < excess ds) : ds ≠ [] := by
  rintro rfl
  exact Nat.lt_irrefl 0 h

theorem CompareReport.hasWarnings_of_pos {r : CompareReport}
    (h : 0 < excess r.envDuplicates ∨ 0 < excess r.exampleDuplicates
      ∨ 0 < r.difference.valueMismatches.length) : r.hasWarnings := by
  by_contra hnone
  have hblank := hasWarnings_eq_false_iff.mp (Bool.eq_false_iff.mpr hnone)
  rcases h with h | h | h
  · exact ne_nil_of_excess_pos h hblank.envDuplicates
  · exact ne_nil_of_excess_pos h hblank.exampleDuplicates
  · rw [hblank.difference] at h
    exact Nat.lt_irrefl 0 h

theorem ScanReport.hasWarnings_of_pos {r : ScanReport}
    (h : 0 < excess r.duplicates ∨ 0 < r.valueMismatches.length) : r.hasWarnings := by
  by_contra hnone
  have hblank := hasWarnings_eq_false_iff.mp (Bool.eq_false_iff.mpr hnone)
  rcases h with h | h
  · exact ne_nil_of_excess_pos h hblank.duplicates
  · cases hd : r.exampleDifference with
    | none => simp [valueMismatches, hd] at h
    | some d => simp [valueMismatches, hd, hblank.exampleDifference d hd, Difference.none] at h

section

variable (files : List SourceFile) (envText : Text) (exampleText : Option Text)
  (opts : ScanOptions)

theorem analyze_duplicateCount :
    (analyze files envText exampleText opts).stats.duplicateCount
      = excess (analyze files envText exampleText opts).duplicates
        + excess (keptDuplicates opts.filter (exampleText.getD [])) := by
  cases exampleText <;> rfl

theorem analyze_exampleCount :
    (analyze files envText exampleText opts).stats.exampleCount
      = (opts.filter.apply (.parse (exampleText.getD []))).size := by
  cases exampleText <;> rfl

theorem analyze_valueMismatchCount :
    (analyze files envText exampleText opts).stats.valueMismatchCount
      = (analyze files envText exampleText opts).valueMismatches.length := by
  cases exampleText <;> rfl

theorem compareFiles_countsItsLists (envText exampleText : Text) (opts : CompareOptions) :
    (compareFiles envText exampleText opts).CountsItsLists where
  duplicateCount := rfl
  valueMismatchCount := rfl
  warns := by
    intro h
    apply CompareReport.hasWarnings_of_pos
    rcases h with h | h
    · exact (Nat.add_pos_iff_pos_or_pos.mp h).imp_right Or.inl
    · exact Or.inr (Or.inr h)

/-- Repeats in the example are counted; nothing else keeps the warnings from being there. -/
theorem analyze_warns_iff :
    let r : ScanReport := analyze files envText exampleText opts
    (0 < r.stats.duplicateCount ∨ 0 < r.stats.valueMismatchCount → r.hasWarnings)
      ↔ (assignedKeys opts.filter (exampleText.getD [])).Nodup ∨ r.hasWarnings := by
  intro r
  have hcount := analyze_duplicateCount files envText exampleText opts
  rw [← keptDuplicates_eq_nil_iff, ← excess_keptDuplicates_eq_zero_iff]
  constructor
  · intro h
    by_cases hzero : excess (keptDuplicates opts.filter (exampleText.getD [])) = 0
    · exact Or.inl hzero
    · have hpos : 0 < r.stats.duplicateCount := by
        rw [hcount]
        exact Nat.add_pos_right _ (Nat.pos_of_ne_zero hzero)
      exact Or.inr (h (Or.inl hpos))
  · rintro (hzero | hwarnings) hpos
    · -- what is counted is then in the lists of the report, where it makes a warning
      apply ScanReport.hasWarnings_of_pos
      rw [hcount, hzero, analyze_valueMismatchCount] at hpos
      exact hpos
    · exact hwarnings

theorem analyze_countsItsLists_iff :
    (analyze files envText exampleText opts).CountsItsLists
      ↔ (assignedKeys opts.filter (exampleText.getD [])).Nodup := by
  have hcount := analyze_duplicateCount files envText exampleText opts
  constructor
  · intro h
    rw [← keptDuplicates_eq_nil_iff, ← excess_keptDuplicates_eq_zero_iff]
    have hlisted := h.duplicateCount
    omega
  · intro hnodup
    refine ⟨?_, analyze_valueMismatchCount files envText exampleText opts, ?_⟩
    · rw [← keptDuplicates_eq_nil_iff, ← excess_keptDuplicates_eq_zero_iff] at hnodup
      omega
    · exact (analyze_warns_iff files envText exampleText opts).mpr (Or.inl hnodup)

end

/-! ## 3. What is counted -/

/-- A comparison counts what it lists.  A scan counts what it lists and every assignment of the
example that repeats a kept key; so its numbers are those of its lists just if the example assigns
no kept key twice, and warnings are missing from a report with a number above zero just if the
example does and nothing else is reported.  A strict run fails on whatever is listed. -/
theorem countsItsLists_iff (envText exampleText : Text) (compareOpts : CompareOptions)
    (files : List SourceFile) (scanExample : Option Text) (scanOpts : ScanOptions) :
    let scanned : ScanReport := analyze files envText scanExample scanOpts
    let keys := assignedKeys scanOpts.filter (scanExample.getD [])
    (compareFiles envText exampleText compareOpts).CountsItsLists
      ∧ (scanned.CountsItsLists ↔ keys.Nodup)
      ∧ scanned.stats.duplicateCount + scanned.stats.exampleCount
          = excess scanned.duplicates + keys.length
      ∧ scanned.stats.valueMismatchCount = scanned.valueMismatches.length
      ∧ ((0 < scanned.stats.duplicateCount ∨ 0 < scanned.stats.valueMismatchCount →
            scanned.hasWarnings)
          ↔ keys.Nodup ∨ scanned.hasWarnings)
      ∧ (∀ disk now config shared r, comparedReport disk now config shared = .ok r →
          isStrict shared config →
          0 < r.stats.duplicateCount ∨ 0 < r.stats.valueMismatchCount →
          (Id.run (runCompare disk now config shared)).exitCode = 1)
      ∧ ∀ disk now config shared own r, scannedReport disk now config shared own = .ok r →
          isStrict shared config →
          0 < excess r.duplicates ∨ 0 < r.stats.valueMismatchCount →
          (Id.run (runScan disk now config shared own)).exitCode = 1 := by
  intro scanned keys
  refine ⟨compareFiles_countsItsLists envText exampleText compareOpts,
    analyze_countsItsLists_iff files envText scanExample scanOpts, ?_,
    analyze_valueMismatchCount files envText scanExample scanOpts,
    analyze_warns_iff files envText scanExample scanOpts, ?_, ?_⟩
  · rw [analyze_duplicateCount, analyze_exampleCount, Nat.add_assoc, excess_keptDuplicates]
  · intro disk now config shared r hreport hstrict hpos
    obtain ⟨env, expected, opts, rfl⟩ := exists_compareFiles hreport
    have hwarnings := (compareFiles_countsItsLists env expected opts).warns hpos
    exact (exitCode_runCompare hreport).mpr (Or.inr ⟨hstrict, hwarnings⟩)
  · intro disk now config shared own r hreport hstrict hpos
    obtain ⟨sources, env, expected, opts, rfl⟩ := exists_analyze hreport
    rw [analyze_valueMismatchCount] at hpos
    have hwarnings := ScanReport.hasWarnings_of_pos hpos
    exact (exitCode_runScan hreport).mpr (Or.inr ⟨hstrict, hwarnings⟩)

/-- The example assigns `A` twice: the scan counts this and lists nothing, so there is no warning
and a strict run succeeds, where a strict comparison of the two files fails. -/
theorem not_countsItsLists :
    let env := "A=1\n".toList
    let expected := "A=1\nA=1\n".toList
    let source := "process.env.A".toList
    let scanned := analyze [⟨"a.ts".toList, source⟩] env (some expected)
      ⟨false, .empty, .low, {}, .unknown, none, defaultWeights, .ofSeconds 0 0⟩
    let disk := (Tree.directory [(".env".toList, .ofText env),
      (".env.example".toList, .ofText expected),
      ("src".toList, .directory [("a.ts".toList, .ofText source)])]).access
    let shared : SharedFlags :=
      ⟨some ".env".toList, some ".env.example".toList, false, [], [], false, true⟩
    let now := Instant.ofSeconds 0 0
    scanned.stats.duplicateCount = 1 ∧ scanned.duplicates = [] ∧ scanned.hasWarnings = false
      ∧ ¬ scanned.CountsItsLists
      ∧ (Id.run (runScan disk now .default shared ⟨"src".toList, [], none, none⟩)).exitCode = 0
      ∧ (Id.run (runCompare disk now .default shared)).exitCode = 1 := by
  intro env expected source scanned disk shared now
  have hcount : scanned.stats.duplicateCount = 1 := by decide +kernel
  have hnone : scanned.hasWarnings = false := by decide +kernel
  refine ⟨hcount, by decide +kernel, hnone, ?_, by decide +kernel, by decide +kernel⟩
  intro h
  have hwarnings := h.warns (Or.inl (by omega))
  rw [hnone] at hwarnings
  cases hwarnings

end EnvAudit
