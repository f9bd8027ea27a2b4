import EnvAudit.Proofs.Lists
import EnvAudit.Proofs.Text.Firsts
import EnvAudit.Report.Scan

/-!
# Used and declared names

A scan holds the names that the source files use against the keys that the env file declares.
`analyze_missing_unused` says that the two lists of a report share this out: what is used and not
declared is missing, what is declared and not used is unused, and what is left of either side is the
same number of names.
-/

namespace EnvAudit

section

variable (files : List SourceFile) (envText : Text) (exampleText : Option Text)
  (opts : ScanOptions)

/-- The used names are counted without repeats, but a key is unused if no usage has its name. -/
theorem analyze_unused :
    (analyze files envText exampleText opts).unused
      = (opts.filter.apply (.parse envText)).keys.filter fun k =>
          !((analyze files envText exampleText opts).usages.map (·.name)).contains k := by
  rw [← contains_firsts]
  rfl

/-- The missing names are those that are used and not declared, in the order of their first use; the
unused ones are the keys that no usage names, in the order of their declaration.  No name is on both
lists or twice on one, and the names that are both used and declared are what remains of the
different names used without the missing ones, and of the keys without the unused ones. -/
theorem analyze_missing_unused :
    let r : ScanReport := analyze files envText exampleText opts
    let env := opts.filter.apply (.parse envText)
    let used := r.usages.map (·.name)
    let both := env.keys.filter used.contains
    (∀ name, name ∈ r.missing ↔ name ∈ used ∧ name ∉ env.keys)
      ∧ r.missing.Pairwise (fun a b => used.idxOf a < used.idxOf b)
      ∧ (∀ name, name ∈ r.unused ↔ name ∈ env.keys ∧ name ∉ used)
      ∧ r.unused.Sublist env.keys
      ∧ r.missing.Nodup ∧ r.unused.Nodup ∧ r.missing.Disjoint r.unused
      ∧ ∃ counts, r.stats.scan = some counts
          ∧ counts.names = r.missing.length + both.length
          ∧ r.stats.envCount = r.unused.length + both.length
          ∧ counts.names - r.missing.length = r.stats.envCount - r.unused.length := by
  intro r env used both
  have hkeys : env.keys.Nodup := env.nodup
  have hmissing : r.missing = (firsts used).filter fun v => !env.keys.contains v := rfl
  have hunused : r.unused = env.keys.filter fun k => !used.contains k :=
    analyze_unused files envText exampleText opts
  have hmemMissing (name : Text) : name ∈ r.missing ↔ name ∈ used ∧ name ∉ env.keys := by
    rw [hmissing, mem_filter_not_contains, mem_firsts]
  have hmemUnused (name : Text) : name ∈ r.unused ↔ name ∈ env.keys ∧ name ∉ used := by
    rw [hunused, mem_filter_not_contains]
  have hnames : (firsts used).length = r.missing.length + both.length := by
    rw [← length_filter_not_contains_add (firsts used) env.keys, ← hmissing,
      length_filter_contains (nodup_firsts used) hkeys, contains_firsts]
  have hcount : r.stats.envCount = r.unused.length + both.length := by
    rw [hunused, length_filter_not_contains_add, ← EnvMap.size_eq_length_keys]
    rfl
  refine ⟨hmemMissing, ?_, hmemUnused, ?_, ?_, ?_, ?_,
    ⟨r.usages.length, (firsts used).length, files.length⟩, rfl, hnames, hcount, ?_⟩
  · rw [hmissing]
    exact (pairwise_idxOf_firsts used).filter _
  · rw [hunused]
    exact List.filter_sublist
  · rw [hmissing]
    exact (nodup_firsts used).filter _
  · rw [hunused]
    exact hkeys.filter _
  · intro name hm hu
    exact ((hmemMissing name).mp hm).2 ((hmemUnused name).mp hu).1
  · rw [hnames, hcount, Nat.add_sub_cancel_left, Nat.add_sub_cancel_left]

end

end EnvAudit
