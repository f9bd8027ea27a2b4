import EnvAudit.Proofs.Env.Difference
import EnvAudit.Proofs.Lists
import EnvAudit.Report.Scan

/-!
# Checks without some of the keys

A check that is given only the entries of kept keys finds what it finds among all entries, less the
findings about keys that are not kept.  There is one lemma for each check of a report; all of them
hold for any choice of keys, and the reports apply them to the keys that a filter keeps.
-/

namespace EnvAudit

variable {keep : Text → Bool}

/-! ## 1. Checks of names -/

theorem misnamed_filter (names : List Text) :
    misnamed (names.filter keep) = (misnamed names).filter fun m => keep m.key := by
  unfold misnamed
  rw [firsts_filter, List.filter_filter, List.filter_map, List.filter_filter]
  simp only [Function.comp_def, Bool.and_comm]

/-- A look-alike is about the two names it is made from. -/
theorem lookAlike?_keys {pair : Text × Text} {l : LookAlike} (h : lookAlike? pair = some l) :
    l.key1 = pair.1 ∧ l.key2 = pair.2 := by
  unfold lookAlike? at h
  split at h
  · cases h
    exact ⟨rfl, rfl⟩
  · cases h

theorem lookAlikes_filter (names : List Text) :
    lookAlikes (names.filter keep)
      = (lookAlikes names).filter fun l => keep l.key1 && keep l.key2 := by
  unfold lookAlikes
  rw [firsts_filter, pairsInOrder_filter]
  apply filterMap_filter_of_kept
  intro pair l h
  rw [(lookAlike?_keys h).1, (lookAlike?_keys h).2]

/-! ## 2. Checks of maps -/

namespace Difference

/-- The difference without the keys that are not kept. -/
def restrict (keep : Text → Bool) (d : Difference) : Difference where
  missing := d.missing.filter keep
  extra := d.extra.filter keep
  valueMismatches := d.valueMismatches.filter fun m => keep m.key

end Difference

theorem mismatch?_filterKeys {e : Binding} (h : keep e.1) (current : EnvMap) :
    mismatch? (current.filterKeys keep) e = mismatch? current e := by
  unfold mismatch?
  rw [EnvMap.get?_filterKeys h]

theorem filter_not_contains_filterKeys (names : List Text) (m : EnvMap) :
    ((names.filter keep).filter fun k => !(m.filterKeys keep).contains k)
      = (names.filter fun k => !m.contains k).filter keep := by
  unfold EnvMap.contains
  rw [EnvMap.keys_filterKeys]
  exact filter_not_contains_filter names m.keys

theorem difference_filterKeys (current expected : EnvMap) (checkValues : Bool) :
    difference (current.filterKeys keep) (expected.filterKeys keep) checkValues
      = (difference current expected checkValues).restrict keep := by
  have hvalues : (expected.filterKeys keep).entries.filterMap (mismatch? (current.filterKeys keep))
      = (expected.entries.filterMap (mismatch? current)).filter fun m => keep m.key := by
    rw [EnvMap.entries_filterKeys, ← filterMap_filter_of_kept (p := fun e => keep e.1)]
    · -- the entries are kept already, so each value is looked up under a kept key
      apply List.filterMap_congr
      intro e he
      exact mismatch?_filterKeys (List.mem_filter.mp he).2 current
    · intro e m h
      rw [(mismatch?_eq_some.mp h).1]
  unfold difference Difference.restrict
  rw [hvalues, EnvMap.keys_filterKeys, EnvMap.keys_filterKeys, filter_not_contains_filterKeys,
    filter_not_contains_filterKeys]
  cases checkValues <;> rfl

theorem sharedCount_filterKeys (current expected : EnvMap) :
    sharedCount (current.filterKeys keep) (expected.filterKeys keep)
      = ((current.keys.filter expected.contains).filter keep).length := by
  unfold sharedCount
  rw [EnvMap.keys_filterKeys, List.filter_filter, List.filter_filter]
  congr 2
  funext k
  rw [EnvMap.contains_filterKeys]
  cases keep k <;> simp

theorem emptyKeys_filterKeys (m : EnvMap) :
    ((m.filterKeys keep).entries.filter fun e => e.2.isEmpty).map Prod.fst
      = ((m.entries.filter fun e => e.2.isEmpty).map Prod.fst).filter keep := by
  rw [List.filter_map, EnvMap.entries_filterKeys, List.filter_filter, List.filter_filter]
  simp only [Function.comp_def, Bool.and_comm]

/-- The keys of two maps, in the order in which a comparison goes through them. -/
theorem firsts_keys_filterKeys (current expected : EnvMap) :
    firsts ((current.filterKeys keep).keys ++ (expected.filterKeys keep).keys)
      = (firsts (current.keys ++ expected.keys)).filter keep := by
  rw [EnvMap.keys_filterKeys, EnvMap.keys_filterKeys, ← List.filter_append, firsts_filter]

theorem exampleSecretsOf_key {e : Binding} {s : ExampleSecret} (h : s ∈ exampleSecretsOf e) :
    s.key = e.1 := by
  simp only [exampleSecretsOf] at h
  split at h
  · cases h
  · rcases List.mem_append.mp h with h | h
    all_goals
      split at h
      · rw [List.mem_singleton] at h
        rw [h]
      · cases h

theorem exampleSecrets_filterKeys (expected : EnvMap) :
    exampleSecrets (expected.filterKeys keep)
      = (exampleSecrets expected).filter fun s => keep s.key := by
  unfold exampleSecrets
  rw [EnvMap.entries_filterKeys]
  apply flatMap_filter_of_kept
  intro e s h
  rw [exampleSecretsOf_key h]

/-! ## 3. Checks of raw text -/

theorem keptDuplicates_empty (raw : Text) : keptDuplicates .empty raw = duplicates raw :=
  List.filter_eq_self.mpr fun d _ => KeyFilter.keeps_empty d.key

theorem keptExpiries_empty (raw : Text) (now : Instant) :
    keptExpiries .empty raw now = expiries raw now :=
  List.filter_eq_self.mpr fun e _ => KeyFilter.keeps_empty e.key

/-! ## 4. Checks of usages -/

theorem FrameworkRules.check_name {rules : FrameworkRules} {u : Usage} {w : FrameworkWarning}
    (h : w ∈ rules.check u) : w.name = u.name := by
  rcases List.mem_map.mp h with ⟨b, -, rfl⟩
  rfl

theorem FrameworkRules.flatMap_check_filter (rules : FrameworkRules) (us : List Usage) :
    (us.filter fun u => keep u.name).flatMap rules.check
      = (us.flatMap rules.check).filter fun w => keep w.name := by
  apply flatMap_filter_of_kept
  intro u w h
  rw [check_name h]

/-- Whether a warning is new depends on the warnings of its own name alone. -/
theorem addWarning_filter (found : List SchemaWarning) (w : SchemaWarning) :
    (addWarning found w).filter (fun w => keep w.name)
      = if keep w.name then addWarning (found.filter fun w => keep w.name) w
        else found.filter fun w => keep w.name := by
  have hseen : keep w.name →
      (found.filter fun w => keep w.name).any (fun w' => w'.name = w.name ∧ w'.breach = w.breach)
        = found.any fun w' => w'.name = w.name ∧ w'.breach = w.breach := by
    intro hk
    rw [List.any_filter]
    congr 1
    funext w'
    -- a warning that was dropped has another name, so it never counts as the same
    by_cases hn : w'.name = w.name
    · simp [hn, hk]
    · simp [hn]
  unfold addWarning
  by_cases hk : keep w.name
  · rw [if_pos hk, hseen hk]
    split
    · rfl
    · simp [List.filter_append, hk]
  · rw [if_neg hk]
    split
    · rfl
    · simp [List.filter_append, hk]

/-- The warnings of a usage that is kept are added to the kept ones, and those of any other usage
leave them alone. -/
theorem EnvSchema.check_filter (schema : EnvSchema) (found : List SchemaWarning) (u : Usage) :
    (schema.check found u).filter (fun w => keep w.name)
      = if keep u.name then schema.check (found.filter fun w => keep w.name) u
        else found.filter fun w => keep w.name := by
  unfold check
  induction schema.breaches u generalizing found with
  | nil => split <;> rfl
  | cons b bs ih =>
    rw [List.foldl_cons, List.foldl_cons, ih, addWarning_filter]
    split <;> rfl

theorem EnvSchema.checkAll_filter (schema : EnvSchema) (us : List Usage) :
    schema.checkAll (us.filter fun u => keep u.name)
      = (schema.checkAll us).filter fun w => keep w.name := by
  -- the fold from any warnings found so far, of which the kept ones are handed on
  have hfold : ∀ found : List SchemaWarning,
      (us.filter fun u => keep u.name).foldl schema.check (found.filter fun w => keep w.name)
        = (us.foldl schema.check found).filter fun w => keep w.name := by
    induction us with
    | nil => intro found; rfl
    | cons u us ih =>
      intro found
      rw [List.foldl_cons, ← ih, check_filter, List.filter_cons]
      split
      · rw [List.foldl_cons]
      · rfl
  exact hfold []

end EnvAudit
