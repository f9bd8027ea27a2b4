import EnvAudit.Proofs.Env.Appending
import EnvAudit.Proofs.Env.Difference
import EnvAudit.Proofs.Report.TemplatedKeys
import EnvAudit.Proofs.Source.Occurrence

/-!
# Following a report

What a report lists as missing can be appended to the env file: a used name with an empty value, a
key of the example with the value it has there.  Nothing is missing then, and of all other findings
only those change that are about the env file's own lines.
-/

namespace EnvAudit

/-! ## 1. Declaring used names -/

/-- Any name that a source file can use is a key that a line can give. -/
theorem IsPlainName.isWritable {name : Text} (h : IsPlainName name) : IsWritable (name, []) := by
  have hnot {c : Char} (hc : isNameChar c = false) : c ∉ name :=
    AccessForm.not_mem_of_class h.1 hc
  obtain ⟨first, hfirst, -⟩ := h.2
  exact {
    key_ne_nil := by
      rintro rfl
      cases hfirst
    trim_key := Text.trim_eq_self fun c hc => not_isBlank_of_isNameChar (h.1 c hc)
    equals_not_mem := hnot (by decide)
    newline_not_mem_key := hnot (by decide)
    not_comment := fun hhash => hnot (by decide) (List.mem_of_mem_head? hhash)
    trim_value := rfl
    newline_not_mem_value := List.not_mem_nil }

/-- The names as keys without a value. -/
def blankBindings (names : List Text) : List Binding := names.map fun name => (name, [])

theorem map_fst_blankBindings (names : List Text) :
    (blankBindings names).map Prod.fst = names := by
  rw [blankBindings, List.map_map]
  exact List.map_id _

section

variable (files : List SourceFile) (envText : Text) (exampleText : Option Text)
  (opts : ScanOptions)

theorem apply_parse_declared :
    opts.filter.apply (.parse (appendBindings envText
        (blankBindings (analyze files envText exampleText opts).missing)))
      = (opts.filter.apply (.parse envText)).insertAll
          (blankBindings (analyze files envText exampleText opts).missing) := by
  have hmissing : ∀ b ∈ blankBindings (analyze files envText exampleText opts).missing,
      IsWritable b ∧ opts.filter.keeps b.1 := by
    intro b hb
    obtain ⟨name, hname, rfl⟩ := List.mem_map.mp hb
    obtain ⟨⟨file, _, u, hu, rfl⟩, hkeeps, -⟩ :=
      (mem_missing_analyze files envText exampleText opts name).mp hname
    exact ⟨(isPlainName_of_mem_scanUsages hu).isWritable, hkeeps⟩
  exact apply_parse_appendBindings (fun b hb => (hmissing b hb).1) (fun b hb => (hmissing b hb).2)
    envText

theorem keys_apply_parse_declared :
    (opts.filter.apply (.parse (appendBindings envText
        (blankBindings (analyze files envText exampleText opts).missing)))).keys
      = (opts.filter.apply (.parse envText)).keys
        ++ (analyze files envText exampleText opts).missing := by
  have hnodup : (analyze files envText exampleText opts).missing.Nodup :=
    (nodup_firsts _).filter _
  rw [apply_parse_declared, EnvMap.keys_insertAll, map_fst_blankBindings]
  · rwa [map_fst_blankBindings]
  · intro b hb
    obtain ⟨name, hname, rfl⟩ := List.mem_map.mp hb
    exact (mem_filter_not_contains.mp hname).2

/-- With the missing names appended as keys, no name is missing and no other finding about the
source files or the unused keys is different. -/
theorem analyze_declared :
    let r : ScanReport := analyze files envText exampleText opts
    let declared : ScanReport :=
      analyze files (appendBindings envText (blankBindings r.missing)) exampleText opts
    declared.missing = [] ∧ declared.unused = r.unused ∧ declared.usages = r.usages
      ∧ declared.secrets = r.secrets ∧ declared.logged = r.logged
      ∧ declared.misnamed = r.misnamed ∧ declared.frameworkWarnings = r.frameworkWarnings
      ∧ declared.schemaWarnings = r.schemaWarnings := by
  intro r declared
  -- the names that are used do not depend on the env file, so only its keys have changed
  have hkeys := keys_apply_parse_declared files envText exampleText opts
  let used := firsts (r.usages.map (·.name))
  let keys := (opts.filter.apply (.parse envText)).keys
  refine ⟨?_, ?_, rfl, rfl, rfl, rfl, rfl, rfl⟩
  · show (used.filter fun v => !(EnvMap.keys _).contains v) = []
    rw [hkeys]
    exact filter_not_contains_append used keys
  · show (EnvMap.keys _).filter (fun k => !used.contains k) = _
    rw [hkeys]
    exact append_filter_not_contains used keys

end

/-! ## 2. Adding keys of the example -/

section

variable (envText exampleText : Text) (opts : CompareOptions)

/-- What an env file lacks of its example, as keys with their values in the example. -/
def missingBindings : List Binding :=
  (EnvMap.parse exampleText).bindingsOf
    (compareFiles envText exampleText opts).difference.missing

/-- A missing key is one of the example that is not ignored, and the file does not have it. -/
theorem mem_missing_compareFiles {key : Text}
    (h : key ∈ (compareFiles envText exampleText opts).difference.missing) :
    IsLacking opts.filter envText exampleText key :=
  (mem_missing_difference opts.filter envText exampleText opts.checkValues key).mp h

theorem map_fst_missingBindings :
    (missingBindings envText exampleText opts).map Prod.fst
      = (compareFiles envText exampleText opts).difference.missing :=
  EnvMap.map_fst_bindingsOf fun _ hkey =>
    (mem_missing_compareFiles envText exampleText opts hkey).1

theorem isWritable_of_mem_missingBindings :
    ∀ b ∈ missingBindings envText exampleText opts, IsWritable b :=
  fun _ hb => isWritable_of_mem_parse (EnvMap.mem_bindingsOf.mp hb).2

theorem isLacking_of_mem_missingBindings :
    ∀ b ∈ missingBindings envText exampleText opts,
      IsLacking opts.filter envText exampleText b.1 :=
  fun _ hb => mem_missing_compareFiles envText exampleText opts (EnvMap.mem_bindingsOf.mp hb).1

theorem apply_parse_completed :
    opts.filter.apply (.parse (appendBindings envText (missingBindings envText exampleText opts)))
      = (opts.filter.apply (.parse envText)).addMissing (opts.filter.apply (.parse exampleText))
          (compareFiles envText exampleText opts).difference := by
  have hlacking := isLacking_of_mem_missingBindings envText exampleText opts
  rw [apply_parse_appendBindings (isWritable_of_mem_missingBindings envText exampleText opts)
    fun b hb => (hlacking b hb).2.1]
  -- the values are looked up among the keys that are kept, which changes none
  rw [EnvMap.addMissing, KeyFilter.apply, KeyFilter.apply, EnvMap.bindingsOf_filterKeys]
  · rfl
  · exact fun key hkey => (mem_missing_compareFiles envText exampleText opts hkey).2.1

theorem keptDuplicates_completed :
    keptDuplicates opts.filter
        (appendBindings envText (missingBindings envText exampleText opts))
      = keptDuplicates opts.filter envText := by
  have hnodup : ((missingBindings envText exampleText opts).map Prod.fst).Nodup := by
    rw [map_fst_missingBindings]
    exact (EnvMap.nodup _).filter _
  unfold keptDuplicates
  rw [duplicates_appendBindings (isWritable_of_mem_missingBindings envText exampleText opts) hnodup]
  exact fun b hb => (isLacking_of_mem_missingBindings envText exampleText opts b hb).2.2

/-- With the missing keys appended, each with its value of the example, no key is missing, all keys
of the example are shared, and no other difference and no repeated key has come up or gone. -/
theorem compareFiles_completed :
    let r : CompareReport := compareFiles envText exampleText opts
    let added := (EnvMap.parse exampleText).bindingsOf r.difference.missing
    let completed : CompareReport :=
      compareFiles (appendBindings envText added) exampleText opts
    added.map Prod.fst = r.difference.missing
      ∧ completed.difference.missing = []
      ∧ completed.difference.extra = r.difference.extra
      ∧ completed.difference.valueMismatches = r.difference.valueMismatches
      ∧ completed.envDuplicates = r.envDuplicates
      ∧ completed.exampleSecrets = r.exampleSecrets
      ∧ completed.stats.sharedCount = completed.stats.exampleCount := by
  intro r added completed
  let current := opts.filter.apply (.parse envText)
  let expected := opts.filter.apply (.parse exampleText)
  have hcurrent : opts.filter.apply (.parse (appendBindings envText added))
      = current.addMissing expected r.difference :=
    apply_parse_completed envText exampleText opts
  have hdifference : completed.difference = { r.difference with missing := [] } := by
    show difference (opts.filter.apply _) expected opts.checkValues = _
    rw [hcurrent]
    exact difference_addMissing current expected opts.checkValues
  have hshared : completed.stats.sharedCount + completed.difference.missing.length
      = completed.stats.exampleCount := by
    -- what is missing from one map is extra in the other
    show sharedCount _ expected + _ = expected.size
    rw [sharedCount_comm]
    exact sharedCount_add_extra expected _ opts.checkValues
  rw [hdifference] at hshared ⊢
  exact ⟨map_fst_missingBindings envText exampleText opts, rfl, rfl, rfl,
    keptDuplicates_completed envText exampleText opts, rfl, hshared⟩

end

end EnvAudit
