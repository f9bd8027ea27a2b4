import Mathlib.Data.List.Induction
import EnvAudit.Env.Duplicate
import EnvAudit.Env.Map
import EnvAudit.Proofs.Text.Firsts

/-!
# One list of assignments

The map of an env file and its repeated keys come from the same assignments: the map keeps the last
of each key, the repeated keys are told by counting.  `parse_duplicates_assignments` says what each
of the two has from the list, and that together they account for every assignment on it.
-/

namespace EnvAudit

/-! ## 1. The map of a list of bindings -/

/-- The binding is on the list, and no later one has its key. -/
def IsLastBinding (bs : List Binding) (b : Binding) : Prop :=
  ∃ before after, bs = before ++ b :: after ∧ b.1 ∉ after.map Prod.fst

theorem isLastBinding_append_self (bs : List Binding) (b : Binding) :
    IsLastBinding (bs ++ [b]) b :=
  ⟨bs, [], rfl, List.not_mem_nil⟩

theorem IsLastBinding.append_of_ne {bs : List Binding} {b : Binding} (h : IsLastBinding bs b)
    {b' : Binding} (hne : b.1 ≠ b'.1) : IsLastBinding (bs ++ [b']) b := by
  rcases h with ⟨before, after, rfl, hlater⟩
  refine ⟨before, after ++ [b'], by rw [List.append_assoc, List.cons_append], ?_⟩
  rw [List.map_append, List.mem_append, not_or]
  exact ⟨hlater, by simpa using hne⟩

/-- What a map holds after a key is set is the new entry, or an old one of another key. -/
theorem of_mem_setEntry {key value : Text} {es : List Binding} (h : (es.map Prod.fst).Nodup)
    {e : Binding} (he : e ∈ setEntry key value es) : e = (key, value) ∨ e ∈ es ∧ e.1 ≠ key := by
  induction es with
  | nil => exact Or.inl (List.mem_singleton.mp he)
  | cons e' es ih =>
    rw [List.map_cons, List.nodup_cons] at h
    rw [setEntry] at he
    split at he
    next hkey =>
      rcases List.mem_cons.mp he with rfl | hmem
      · exact Or.inl rfl
      · -- the replaced entry was the only one of its key
        refine Or.inr ⟨List.mem_cons_of_mem e' hmem, ?_⟩
        rintro rfl
        exact h.1 (hkey ▸ List.mem_map_of_mem hmem)
    next hkey =>
      rcases List.mem_cons.mp he with rfl | hmem
      · exact Or.inr ⟨List.mem_cons_self, hkey⟩
      · exact (ih h.2 hmem).imp_right fun hold => ⟨List.mem_cons_of_mem e' hold.1, hold.2⟩

namespace EnvMap

theorem ofList_append_singleton (bs : List Binding) (b : Binding) :
    ofList (bs ++ [b]) = (ofList bs).insert b.1 b.2 := by
  unfold ofList
  rw [List.foldl_append, List.foldl_cons, List.foldl_nil]

theorem keys_ofList (bs : List Binding) : (ofList bs).keys = firsts (bs.map Prod.fst) := by
  induction bs using List.reverseRecOn with
  | nil => rfl
  | append_singleton bs b ih =>
    rw [ofList_append_singleton, keys_insert, ih, List.map_append, List.map_singleton]
    by_cases hkey : b.1 ∈ bs.map Prod.fst
    · rw [if_pos (mem_firsts.mpr hkey), firsts_append_of_mem hkey]
    · rw [if_neg (mt mem_firsts.mp hkey), firsts_append_of_not_mem hkey]

/-- Each entry of the map is the last binding of its key. -/
theorem isLastBinding_of_mem_ofList {bs : List Binding} {e : Binding}
    (h : e ∈ (ofList bs).entries) : IsLastBinding bs e := by
  induction bs using List.reverseRecOn with
  | nil => cases h
  | append_singleton bs b ih =>
    rw [ofList_append_singleton] at h
    rcases of_mem_setEntry (ofList bs).nodup h with rfl | ⟨hmem, hne⟩
    · exact isLastBinding_append_self bs b
    · exact (ih hmem).append_of_ne hne

end EnvMap

/-! ## 2. Counting in one pass -/

/-- One more occurrence of the key: a known key keeps its place, a new one comes last. -/
def tally (key : Text) : List (Text × Nat) → List (Text × Nat)
  | [] => [(key, 1)]
  | t :: ts => if t.1 = key then (key, t.2 + 1) :: ts else t :: tally key ts

/-- The keys with the number of their occurrences, counted in one pass. -/
def tallies (keys : List Text) : List (Text × Nat) :=
  keys.foldl (fun ts key => tally key ts) []

theorem tally_map {key : Text} {keys : List Text} (h : keys.Nodup) (count : Text → Nat) :
    tally key (keys.map fun k => (k, count k))
      = if key ∈ keys then keys.map fun k => (k, if k = key then count k + 1 else count k)
        else (keys.map fun k => (k, count k)) ++ [(key, 1)] := by
  induction keys with
  | nil => rfl
  | cons k ks ih =>
    rw [List.nodup_cons] at h
    rw [List.map_cons, tally]
    by_cases hkey : k = key
    · subst hkey
      have hothers : (ks.map fun k' => (k', if k' = k then count k' + 1 else count k'))
          = ks.map fun k' => (k', count k') :=
        List.map_congr_left fun k' hk' => by rw [if_neg (ne_of_mem_of_not_mem hk' h.1)]
      rw [if_pos rfl, if_pos List.mem_cons_self, List.map_cons, if_pos rfl, hothers]
    · rw [if_neg hkey, ih h.2]
      by_cases hmem : key ∈ ks
      · rw [if_pos hmem, if_pos (List.mem_cons_of_mem k hmem), List.map_cons, if_neg hkey]
      · rw [if_neg hmem, if_neg (List.not_mem_cons_of_ne_of_not_mem (Ne.symm hkey) hmem)]
        rfl

/-- The pass counts every key, in the order of first occurrence. -/
theorem tallies_eq (keys : List Text) :
    tallies keys = (firsts keys).map fun k => (k, keys.count k) := by
  induction keys using List.reverseRecOn with
  | nil => rfl
  | append_singleton keys key ih =>
    have hstep : tallies (keys ++ [key]) = tally key (tallies keys) := by
      unfold tallies
      rw [List.foldl_append, List.foldl_cons, List.foldl_nil]
    rw [hstep, ih, tally_map (nodup_firsts keys)]
    by_cases hkey : key ∈ keys
    · rw [if_pos (mem_firsts.mpr hkey), firsts_append_of_mem hkey]
      refine List.map_congr_left fun k _ => ?_
      rw [List.count_append, List.count_singleton]
      by_cases hk : k = key
      · simp [hk]
      · simp [hk, Ne.symm hk]
    · have hothers : ∀ k ∈ firsts keys, (k, (keys ++ [key]).count k) = (k, keys.count k) := by
        intro k hk
        have hne : key ≠ k := Ne.symm (ne_of_mem_of_not_mem (mem_firsts.mp hk) hkey)
        rw [List.count_append, List.count_singleton, if_neg (by simpa using hne), Nat.add_zero]
      rw [if_neg (mt mem_firsts.mp hkey), firsts_append_of_not_mem hkey, List.map_append,
        List.map_congr_left hothers, List.map_singleton, List.count_append,
        List.count_eq_zero_of_not_mem hkey, List.count_singleton_self]

/-! ## 3. Repeated keys -/

theorem map_key_duplicates (raw : Text) :
    (duplicates raw).map (·.key)
      = (firsts ((assignments raw).map Prod.fst)).filter
          fun k => 1 < ((assignments raw).map Prod.fst).count k := by
  simp only [duplicates, List.filter_map, List.map_map]
  exact List.map_id _

/-- The occurrences of some keys are the excess of those that occur more than once, and one for each
key. -/
theorem excess_filter {keys : List Text} {count : Text → Nat} (h : ∀ k ∈ keys, 0 < count k) :
    excess ((keys.map fun k => ⟨k, count k⟩).filter fun d => 1 < d.count) + keys.length
      = totalWeight count keys := by
  induction keys with
  | nil => rfl
  | cons k ks ih =>
    rw [List.forall_mem_cons] at h
    have hks := ih h.2
    unfold excess at hks ⊢
    rw [List.map_cons, List.length_cons, totalWeight]
    by_cases hrepeated : 1 < count k
    · rw [List.filter_cons_of_pos (by simpa using hrepeated), totalWeight]
      dsimp only
      omega
    · rw [List.filter_cons_of_neg (by simpa using hrepeated)]
      have hone := h.1
      omega

theorem excess_duplicates (raw : Text) :
    excess (duplicates raw) + (firsts ((assignments raw).map Prod.fst)).length
      = (assignments raw).length := by
  have hpos : ∀ k ∈ firsts ((assignments raw).map Prod.fst),
      0 < ((assignments raw).map Prod.fst).count k :=
    fun k hk => List.count_pos_iff.mpr (mem_firsts.mp hk)
  rw [duplicates, excess_filter hpos, totalWeight_count_firsts, List.length_map]

/-! ## 4. The map and the repeated keys -/

/-- The map has the keys of all assignments, in the order of their first occurrences, each with the
value of its last; the repeated keys are those assigned at least twice, in the same order and with
the number of their assignments; and each assignment gave the map a key or is in excess. -/
theorem parse_duplicates_assignments (raw : Text) :
    let bs := assignments raw
    let keys := bs.map Prod.fst
    let m := EnvMap.parse raw
    (∀ key, key ∈ m.keys ↔ key ∈ keys)
      ∧ m.keys.Pairwise (fun a b => keys.idxOf a < keys.idxOf b)
      ∧ (∀ b ∈ m.entries, IsLastBinding bs b)
      ∧ (duplicates raw).map (·.key) = m.keys.filter (fun key => 2 ≤ keys.count key)
      ∧ (∀ d ∈ duplicates raw, d.count = keys.count d.key)
      ∧ duplicates raw = ((tallies keys).filter fun t => 1 < t.2).map (fun t => ⟨t.1, t.2⟩)
      ∧ m.size + excess (duplicates raw) = bs.length := by
  intro bs keys m
  have hkeys : m.keys = firsts keys := EnvMap.keys_ofList bs
  refine ⟨?_, ?_, fun _ => EnvMap.isLastBinding_of_mem_ofList, ?_, ?_, ?_, ?_⟩
  · intro key
    rw [hkeys, mem_firsts]
  · rw [hkeys]
    exact pairwise_idxOf_firsts keys
  · rw [hkeys]
    exact map_key_duplicates raw
  · intro d hd
    rcases List.mem_map.mp (List.mem_filter.mp hd).1 with ⟨key, -, rfl⟩
    rfl
  · rw [tallies_eq, List.filter_map, List.map_map]
    simp only [duplicates, List.filter_map]
    rfl
  · rw [EnvMap.size_eq_length_keys, hkeys, Nat.add_comm]
    exact excess_duplicates raw

end EnvAudit
