import Mathlib.Tactic.Tauto
import EnvAudit.Proofs.Env.Lookup
import EnvAudit.Proofs.Lists
import EnvAudit.Report.Health

/-!
# Differences of two maps

What an env map lacks of its example, has beyond it and sets differently.  Seen by key, a clean
difference is agreement on the keys and on the values that the example fixes
(`isClean_difference_iff`), and a map repaired by its difference has the example's keys with just
these values (`get?_repair`).  `difference_exact` puts together what the difference lists.
-/

namespace EnvAudit

variable {current expected : EnvMap} {checkValues : Bool} {k : Text}

/-! ## 1. What a difference lists -/

theorem mem_missing : k ∈ (difference current expected checkValues).missing
    ↔ k ∈ expected.keys ∧ k ∉ current.keys :=
  mem_filter_not_contains

theorem mem_extra : k ∈ (difference current expected checkValues).extra
    ↔ k ∈ current.keys ∧ k ∉ expected.keys :=
  mem_filter_not_contains

/-- An entry of the example makes a mismatch if its value is not blank and the other map has
another one. -/
theorem mismatch?_eq_some {e : Binding} {m : ValueMismatch} :
    mismatch? current e = some m
      ↔ m.key = e.1 ∧ m.expected = e.2 ∧ current.get? m.key = some m.actual
        ∧ Text.trim m.expected ≠ [] ∧ m.actual ≠ m.expected := by
  obtain ⟨key, value⟩ := e
  obtain ⟨k, v, a⟩ := m
  simp only [mismatch?, List.isEmpty_iff]
  constructor
  · intro h
    repeat' split at h
    all_goals cases h
    next hblank _ hget hne => exact ⟨rfl, rfl, hget, hblank, hne⟩
  · rintro ⟨rfl, rfl, hget, hblank, hne⟩
    simp [hget, hblank, hne]

theorem mem_valueMismatches {m : ValueMismatch} :
    m ∈ (difference current expected checkValues).valueMismatches
      ↔ checkValues ∧ expected.get? m.key = some m.expected
        ∧ current.get? m.key = some m.actual ∧ Text.trim m.expected ≠ []
        ∧ m.actual ≠ m.expected := by
  cases checkValues with
  | false => simp [difference]
  | true =>
    simp only [difference, if_true, List.mem_filterMap, mismatch?_eq_some,
      EnvMap.get?_eq_some_iff, true_and]
    constructor
    · rintro ⟨⟨key, value⟩, hmem, rfl, rfl, h⟩
      exact ⟨hmem, h⟩
    · rintro ⟨hmem, h⟩
      exact ⟨_, hmem, rfl, rfl, h⟩

theorem sublist_keys_valueMismatches (current expected : EnvMap) (checkValues : Bool) :
    ((difference current expected checkValues).valueMismatches.map (·.key)).Sublist
      expected.keys := by
  have hentries : ∀ es : List Binding,
      ((es.filterMap (mismatch? current)).map (·.key)).Sublist (es.map Prod.fst) := by
    intro es
    induction es with
    | nil => exact .slnil
    | cons e es ih =>
      rw [List.filterMap_cons, List.map_cons]
      cases he : mismatch? current e with
      | none => exact ih.cons e.1
      | some m =>
        rw [List.map_cons, (mismatch?_eq_some.mp he).1]
        exact ih.cons_cons e.1
  cases checkValues with
  | false => exact List.nil_sublist _
  | true => exact hentries expected.entries

theorem sharedCount_comm (current expected : EnvMap) :
    sharedCount current expected = sharedCount expected current :=
  length_filter_contains current.nodup expected.nodup

theorem sharedCount_add_extra (current expected : EnvMap) (checkValues : Bool) :
    sharedCount current expected + (difference current expected checkValues).extra.length
      = current.size := by
  rw [EnvMap.size_eq_length_keys, ← length_filter_not_contains_add current.keys expected.keys,
    Nat.add_comm]
  rfl

/-! ## 2. Clean differences -/

/-- The maps have the same keys, and where values are checked, the same values wherever the example
gives one that is not blank. -/
theorem isClean_difference_iff :
    (difference current expected checkValues).isClean
      ↔ (∀ k, k ∈ current.keys ↔ k ∈ expected.keys)
        ∧ (checkValues → ∀ k a v, current.get? k = some a → expected.get? k = some v →
            Text.trim v = [] ∨ a = v) := by
  have hempty : (difference current expected checkValues).isClean
      ↔ ((∀ k, ¬ (k ∈ expected.keys ∧ k ∉ current.keys))
          ∧ ∀ k, ¬ (k ∈ current.keys ∧ k ∉ expected.keys))
        ∧ ∀ m, m ∉ (difference current expected checkValues).valueMismatches := by
    simp only [Difference.isClean, Bool.and_eq_true, List.isEmpty_iff,
      List.eq_nil_iff_forall_not_mem, mem_missing, mem_extra]
  rw [hempty]
  constructor
  · rintro ⟨⟨hmissing, hextra⟩, hvalues⟩
    refine ⟨fun k => ?_, fun hcheck k a v ha hv => ?_⟩
    · have hm := hmissing k
      have he := hextra k
      tauto
    · by_contra hnot
      rw [not_or] at hnot
      exact hvalues ⟨k, v, a⟩ (mem_valueMismatches.mpr ⟨hcheck, hv, ha, hnot.1, hnot.2⟩)
  · rintro ⟨hkeys, hvalues⟩
    refine ⟨⟨fun k hk => hk.2 ((hkeys k).mpr hk.1), fun k hk => hk.2 ((hkeys k).mp hk.1)⟩, ?_⟩
    intro m hm
    obtain ⟨hcheck, hv, ha, hblank, hne⟩ := mem_valueMismatches.mp hm
    exact (hvalues hcheck m.key m.actual m.expected ha hv).elim hblank hne

/-! ## 3. Repairing a map -/

/-- The map with the missing keys added, each with its value of the example. -/
def EnvMap.addMissing (current expected : EnvMap) (d : Difference) : EnvMap :=
  current.insertAll (expected.bindingsOf d.missing)

/-- The map with the missing keys added, the extra keys dropped, and the mismatched keys set to what
is expected. -/
def EnvMap.repair (current expected : EnvMap) (d : Difference) : EnvMap :=
  let kept := (current.addMissing expected d).filterKeys fun k => !d.extra.contains k
  kept.insertAll (d.valueMismatches.map fun m => (m.key, m.expected))

theorem map_fst_bindingsOf_missing (current expected : EnvMap) (checkValues : Bool) :
    (expected.bindingsOf (difference current expected checkValues).missing).map Prod.fst
      = (difference current expected checkValues).missing :=
  EnvMap.map_fst_bindingsOf fun _ hk => (mem_missing.mp hk).1

theorem nodup_keys_bindingsOf_missing (current expected : EnvMap) (checkValues : Bool) :
    ((expected.bindingsOf (difference current expected checkValues).missing).map
      Prod.fst).Nodup := by
  rw [map_fst_bindingsOf_missing]
  exact expected.nodup.filter _

theorem get?_addMissing (current expected : EnvMap) (checkValues : Bool) (k : Text) :
    (current.addMissing expected (difference current expected checkValues)).get? k
      = (current.get? k <|> expected.get? k) := by
  rw [EnvMap.addMissing,
    EnvMap.get?_insertAll (nodup_keys_bindingsOf_missing current expected checkValues)]
  cases ha : current.get? k with
  | some a =>
    have hnone : (expected.bindingsOf (difference current expected checkValues).missing).lookup k
        = none := by
      rw [lookup_eq_none_iff_not_mem, map_fst_bindingsOf_missing, mem_missing]
      exact fun hk => hk.2 (EnvMap.mem_keys_of_get? ha)
    rw [hnone]
    rfl
  | none =>
    -- a key that the map lacks is added with what the example has for it, if anything
    have hadded : (expected.bindingsOf (difference current expected checkValues).missing).lookup k
        = expected.get? k := by
      ext v
      rw [lookup_eq_some_iff_mem (nodup_keys_bindingsOf_missing current expected checkValues),
        EnvMap.mem_bindingsOf, mem_missing, EnvMap.get?_eq_some_iff]
      exact and_iff_right_of_imp fun hv =>
        ⟨List.mem_map_of_mem hv, EnvMap.get?_eq_none_iff.mp ha⟩
    rw [hadded]
    cases expected.get? k <;> rfl

theorem keys_addMissing (current expected : EnvMap) (checkValues : Bool) :
    (current.addMissing expected (difference current expected checkValues)).keys
      = current.keys ++ (difference current expected checkValues).missing := by
  rw [EnvMap.addMissing, EnvMap.keys_insertAll
    (nodup_keys_bindingsOf_missing current expected checkValues), map_fst_bindingsOf_missing]
  intro b hb
  exact (mem_missing.mp (EnvMap.mem_bindingsOf.mp hb).1).2

/-- With the missing keys added nothing else of the difference changes. -/
theorem difference_addMissing (current expected : EnvMap) (checkValues : Bool) :
    difference (current.addMissing expected (difference current expected checkValues)) expected
        checkValues
      = { difference current expected checkValues with missing := [] } := by
  have hmissing : (expected.keys.filter fun k => !(current.addMissing expected
      (difference current expected checkValues)).contains k) = [] := by
    unfold EnvMap.contains
    rw [keys_addMissing]
    exact filter_not_contains_append expected.keys current.keys
  have hextra : ((current.addMissing expected
      (difference current expected checkValues)).keys.filter fun k => !expected.contains k)
        = current.keys.filter fun k => !expected.contains k := by
    rw [keys_addMissing]
    exact append_filter_not_contains expected.keys current.keys
  -- a key that was added has the expected value, and no other value has changed
  have hvalues : ∀ e ∈ expected.entries,
      mismatch? (current.addMissing expected (difference current expected checkValues)) e
        = mismatch? current e := by
    intro e he
    have hv : expected.get? e.1 = some e.2 := EnvMap.get?_eq_some_iff.mpr he
    unfold mismatch?
    rw [get?_addMissing, hv]
    cases current.get? e.1 with
    | none => simp
    | some a => rfl
  unfold difference at hmissing hextra hvalues ⊢
  rw [hmissing, hextra, List.filterMap_congr hvalues]

theorem nodup_keys_valueMismatches (current expected : EnvMap) (checkValues : Bool) :
    (((difference current expected checkValues).valueMismatches.map fun m =>
      (m.key, m.expected)).map Prod.fst).Nodup := by
  rw [List.map_map]
  exact expected.nodup.sublist (sublist_keys_valueMismatches current expected checkValues)

theorem lookup_valueMismatches (current expected : EnvMap) (k v : Text) :
    ((difference current expected true).valueMismatches.map fun m => (m.key, m.expected)).lookup k
        = some v
      ↔ expected.get? k = some v
        ∧ ∃ a, current.get? k = some a ∧ Text.trim v ≠ [] ∧ a ≠ v := by
  rw [lookup_eq_some_iff_mem (nodup_keys_valueMismatches current expected true), List.mem_map]
  constructor
  · rintro ⟨m, hm, heq⟩
    cases heq
    obtain ⟨-, hv, ha, h⟩ := mem_valueMismatches.mp hm
    exact ⟨hv, _, ha, h⟩
  · rintro ⟨hv, a, ha, h⟩
    exact ⟨⟨k, v, a⟩, mem_valueMismatches.mpr ⟨rfl, hv, ha, h⟩, rfl⟩

/-- A repaired map has the keys of the example with their values; where a value of the example is
blank, a key that was there keeps its own. -/
theorem get?_repair (current expected : EnvMap) (k : Text) :
    (current.repair expected (difference current expected true)).get? k
      = (expected.get? k).map fun v =>
          if Text.trim v = [] then (current.get? k).getD v else v := by
  unfold EnvMap.repair
  rw [EnvMap.get?_insertAll (nodup_keys_valueMismatches current expected true),
    EnvMap.get?_filterKeys_eq_ite, get?_addMissing]
  -- a value that is set last wins; where none is, the key is dropped, kept or added
  have hextra : k ∈ (difference current expected true).extra ↔ _ := mem_extra
  have hset := lookup_valueMismatches current expected k
  generalize List.lookup k _ = set? at hset ⊢
  cases hv : expected.get? k with
  | none =>
    have hnone : set? = none := by simpa [hv, Option.eq_none_iff_forall_ne_some] using hset
    cases ha : current.get? k with
    | none => simp [hnone]
    | some a =>
      have hdropped := hextra.mpr ⟨EnvMap.mem_keys_of_get? ha, EnvMap.get?_eq_none_iff.mp hv⟩
      simp [hnone, hdropped]
  | some v =>
    have hstays : k ∉ (difference current expected true).extra :=
      fun h => (hextra.mp h).2 (EnvMap.mem_keys_of_get? hv)
    cases ha : current.get? k with
    | none =>
      have hnone : set? = none := by simpa [ha, Option.eq_none_iff_forall_ne_some] using hset
      simp [hnone, hstays]
    | some a =>
      by_cases hwrong : Text.trim v ≠ [] ∧ a ≠ v
      · have hsome : set? = some v := (hset v).mpr ⟨hv, a, ha, hwrong⟩
        simp [hsome, hwrong.1]
      · have hnone : set? = none := by
          simp only [Option.eq_none_iff_forall_ne_some, Ne, hset]
          rintro w ⟨hw, b, hb, h⟩
          rw [hv] at hw
          rw [ha] at hb
          cases hw
          cases hb
          exact hwrong h
        by_cases hblank : Text.trim v = []
        · simp [hnone, hstays, hblank]
        · have heq : a = v := by tauto
          simp [hnone, hstays, hblank, heq]

/-! ## 4. The difference is exact -/

/-- The missing and the extra keys are the two differences of the key sets, each in the order of
its map; they have no key in common, no key twice, and trade places when the maps do.  The
mismatches are the keys of both maps whose value in the example is not blank and is not the one that
the other map has, in the order of the example, and there are none if values are not checked.  The
keys of either map are those that are shared and those that are listed for it.  A map that is
repaired by its difference has none any more, and a map has none from itself. -/
theorem difference_exact (current expected : EnvMap) (checkValues : Bool)
    (envDuplicates exampleDuplicates : List Duplicate) (scan : Option ScanStats) :
    let d : Difference := difference current expected checkValues
    let stats : Stats := statsOf current expected envDuplicates exampleDuplicates d scan
    ((∀ k, k ∈ d.missing ↔ k ∈ expected.keys ∧ k ∉ current.keys)
        ∧ d.missing.Sublist expected.keys
        ∧ (∀ k, k ∈ d.extra ↔ k ∈ current.keys ∧ k ∉ expected.keys)
        ∧ d.extra.Sublist current.keys
        ∧ d.missing.Disjoint d.extra ∧ d.missing.Nodup ∧ d.extra.Nodup)
      ∧ (∀ checked, (difference expected current checked).missing = d.extra
          ∧ (difference expected current checked).extra = d.missing)
      ∧ (∀ m, m ∈ d.valueMismatches
          ↔ checkValues ∧ expected.get? m.key = some m.expected
            ∧ current.get? m.key = some m.actual ∧ Text.trim m.expected ≠ []
            ∧ m.actual ≠ m.expected)
      ∧ (d.valueMismatches.map (·.key)).Sublist expected.keys
      ∧ (d.valueMismatches.map (·.key)).Nodup
      ∧ (expected.size = stats.sharedCount + d.missing.length
          ∧ current.size = stats.sharedCount + d.extra.length)
      ∧ (difference (current.repair expected (difference current expected true)) expected
          true).isClean
      ∧ ∀ checked, (difference current current checked).isClean := by
  intro d stats
  have hmissing : d.missing.Sublist expected.keys := List.filter_sublist
  have hextra : d.extra.Sublist current.keys := List.filter_sublist
  have hkeys := sublist_keys_valueMismatches current expected checkValues
  have hcurrent := sharedCount_add_extra current expected checkValues
  have hexpected : sharedCount current expected + d.missing.length = expected.size := by
    rw [sharedCount_comm]
    exact sharedCount_add_extra expected current checkValues
  refine ⟨⟨fun k => mem_missing, hmissing, fun k => mem_extra, hextra, ?_,
    expected.nodup.sublist hmissing, current.nodup.sublist hextra⟩, fun _ => ⟨rfl, rfl⟩,
    fun m => mem_valueMismatches, hkeys, expected.nodup.sublist hkeys,
    ⟨hexpected.symm, hcurrent.symm⟩, ?_, ?_⟩
  · intro k hm he
    exact (mem_missing.mp hm).2 (mem_extra.mp he).1
  · rw [isClean_difference_iff]
    refine ⟨fun k => ?_, fun _ k a v ha hv => ?_⟩
    · -- looked up by key, the repaired map has something just where the example has
      rw [← not_iff_not, ← EnvMap.get?_eq_none_iff, ← EnvMap.get?_eq_none_iff, get?_repair,
        Option.map_eq_none_iff]
    · rw [get?_repair, hv, Option.map_some, Option.some.injEq] at ha
      by_cases hblank : Text.trim v = []
      · exact Or.inl hblank
      · rw [if_neg hblank] at ha
        exact Or.inr ha.symm
  · intro checked
    rw [isClean_difference_iff]
    refine ⟨fun _ => Iff.rfl, fun _ k a v ha hv => Or.inr ?_⟩
    rw [ha] at hv
    exact Option.some.inj hv

end EnvAudit
