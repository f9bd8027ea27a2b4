import Mathlib.Data.List.Forall2
import Mathlib.Data.List.Induction
import EnvAudit.Env.Filter
import EnvAudit.Proofs.Env.Lookup

/-!
# Maps and their histories

A map is changed in three ways: a key is set, the whole map is replaced by that of an env file, and
the keys that a filter ignores are taken out.  The value of a key and its place follow different
rules.  Setting a key again changes the value and not the place, and a key that comes back after it
was taken out comes last.  `after_isMapOf` reads the whole map off the history of the changes.
-/

namespace EnvAudit

/-! ## 1. Histories -/

/-- A change of a map as the programs that use it make it. -/
inductive MapChange where
  | insert (key value : Text)
  | load (raw : Text)
  | filter (f : KeyFilter)

namespace MapChange

def run (m : EnvMap) : MapChange → EnvMap
  | insert key value => m.insert key value
  | load raw => EnvMap.parse raw
  | filter f => f.apply m

end MapChange

/-- The map after the changes, from the empty one. -/
def EnvMap.after (changes : List MapChange) : EnvMap := changes.foldl MapChange.run ∅

/-- What a change means for the keys. -/
inductive KeyEvent where
  | set (key value : Text)
  | clear
  | drop (f : KeyFilter)

namespace KeyEvent

def sets (key : Text) (e : KeyEvent) : Prop := ∃ value, e = set key value

def removes (key : Text) : KeyEvent → Prop
  | set _ _ => False
  | clear => True
  | drop f => f.ignores key

def run (m : EnvMap) : KeyEvent → EnvMap
  | set key value => m.insert key value
  | clear => ∅
  | drop f => f.apply m

end KeyEvent

/-- The events of a change.  A file empties the map and sets its assignments, line by line. -/
def MapChange.events : MapChange → List KeyEvent
  | insert key value => [.set key value]
  | load raw => .clear :: (assignments raw).map fun b => .set b.1 b.2
  | filter f => [.drop f]

def history (changes : List MapChange) : List KeyEvent := changes.flatMap MapChange.events

/-- The map after the events, from the empty one. -/
def mapOf (es : List KeyEvent) : EnvMap := es.foldl KeyEvent.run ∅

theorem MapChange.run_eq_foldl_events (m : EnvMap) (c : MapChange) :
    c.run m = c.events.foldl KeyEvent.run m := by
  cases c with
  | insert key value => rfl
  | load raw =>
    rw [events, List.foldl_cons, List.foldl_map]
    rfl
  | filter f => rfl

theorem EnvMap.after_eq_mapOf (changes : List MapChange) :
    EnvMap.after changes = mapOf (history changes) := by
  unfold EnvMap.after mapOf history
  generalize (∅ : EnvMap) = m
  induction changes generalizing m with
  | nil => rfl
  | cons c cs ih =>
    rw [List.foldl_cons, ih, List.flatMap_cons, List.foldl_append, c.run_eq_foldl_events]

/-! ## 2. Events that still count -/

/-- One of the events starts something, as the events before it allow, and all later ones leave it
standing. -/
def Since (starts : List KeyEvent → KeyEvent → Prop) (leaves : KeyEvent → Prop)
    (es : List KeyEvent) : Prop :=
  ∃ before e later, es = before ++ e :: later ∧ starts before e ∧ ∀ e' ∈ later, leaves e'

section
variable {starts : List KeyEvent → KeyEvent → Prop} {leaves : KeyEvent → Prop}

theorem not_since_nil : ¬ Since starts leaves [] := by
  rintro ⟨before, e, later, h, -⟩
  simp at h

theorem since_append_singleton {es : List KeyEvent} {e : KeyEvent} :
    Since starts leaves (es ++ [e]) ↔ starts es e ∨ leaves e ∧ Since starts leaves es := by
  constructor
  · rintro ⟨before, e', later, h, hstarts, hlater⟩
    induction later using List.reverseRecOn with
    | nil =>
      obtain ⟨rfl, he⟩ := List.append_inj' h rfl
      cases he
      exact Or.inl hstarts
    | append_singleton later last _ =>
      rw [← List.cons_append, ← List.append_assoc] at h
      obtain ⟨rfl, he⟩ := List.append_inj' h rfl
      cases he
      rw [List.forall_mem_append, List.forall_mem_singleton] at hlater
      exact Or.inr ⟨hlater.2, before, e', later, rfl, hstarts, hlater.1⟩
  · rintro (hstarts | ⟨hleaves, before, e', later, rfl, hstarts, hlater⟩)
    · exact ⟨es, e, [], rfl, hstarts, List.forall_mem_nil leaves⟩
    · refine ⟨before, e', later ++ [e], by simp, hstarts, ?_⟩
      rw [List.forall_mem_append, List.forall_mem_singleton]
      exact ⟨hlater, hleaves⟩

end

/-- The key was set, and neither set nor taken out since. -/
def IsLastSet (key value : Text) : List KeyEvent → Prop :=
  Since (fun _ e => e = .set key value) fun e => ¬ e.sets key ∧ ¬ e.removes key

/-- The key was set, and not taken out since. -/
def IsPresent (key : Text) : List KeyEvent → Prop :=
  Since (fun _ e => e.sets key) fun e => ¬ e.removes key

/-- The event behind the first `n` set the key when it was absent, and no later one took it out. -/
def IsFirstSet (key : Text) (n : Nat) : List KeyEvent → Prop :=
  Since (fun before e => before.length = n ∧ e.sets key ∧ ¬ IsPresent key before) fun e =>
    ¬ e.removes key

section
variable {es : List KeyEvent} {e : KeyEvent} {key value : Text} {n : Nat}

theorem isLastSet_append_singleton :
    IsLastSet key value (es ++ [e])
      ↔ e = .set key value ∨ (¬ e.sets key ∧ ¬ e.removes key) ∧ IsLastSet key value es :=
  since_append_singleton

theorem isPresent_append_singleton :
    IsPresent key (es ++ [e]) ↔ e.sets key ∨ ¬ e.removes key ∧ IsPresent key es :=
  since_append_singleton

theorem isFirstSet_append_singleton :
    IsFirstSet key n (es ++ [e])
      ↔ (es.length = n ∧ e.sets key ∧ ¬ IsPresent key es)
        ∨ ¬ e.removes key ∧ IsFirstSet key n es :=
  since_append_singleton

end

/-! ## 3. What one event does to a map -/

namespace KeyEvent

variable {key value : Text}

@[simp] theorem sets_set {k v : Text} : (set k v).sets key ↔ k = key := by
  simp [sets]

@[simp] theorem not_sets_clear : ¬ clear.sets key := by
  simp [sets]

@[simp] theorem not_sets_drop {f : KeyFilter} : ¬ (drop f).sets key := by
  simp [sets]

theorem get?_run (m : EnvMap) (e : KeyEvent) :
    (e.run m).get? key = some value
      ↔ e = set key value ∨ (¬ e.sets key ∧ ¬ e.removes key) ∧ m.get? key = some value := by
  cases e with
  | set k v =>
    rw [run, EnvMap.get?_insert]
    by_cases hk : key = k
    · subst hk
      simp
    · simp [removes, hk, Ne.symm hk]
  | clear => simp [run, removes, EnvMap.get?, EmptyCollection.emptyCollection, EnvMap.empty]
  | drop f =>
    rw [run, KeyFilter.apply, EnvMap.get?_filterKeys_eq_ite]
    by_cases hf : f.ignores key <;> simp [removes, KeyFilter.keeps, hf]

theorem mem_keys_run (m : EnvMap) (e : KeyEvent) :
    key ∈ (e.run m).keys ↔ e.sets key ∨ ¬ e.removes key ∧ key ∈ m.keys := by
  cases e with
  | set k v =>
    rw [run, EnvMap.keys_insert, sets_set]
    by_cases hk : k ∈ m.keys
    · rw [if_pos hk]
      constructor
      · exact fun h => Or.inr ⟨not_false, h⟩
      · rintro (rfl | ⟨-, h⟩)
        · exact hk
        · exact h
    · rw [if_neg hk]
      simp [removes, or_comm, eq_comm]
  | clear => simp [run, removes, EnvMap.keys, EmptyCollection.emptyCollection, EnvMap.empty]
  | drop f => simp [run, removes, KeyFilter.keeps, and_comm]

/-- An event leaves the keys in their order; it may put one that was absent behind them. -/
theorem keys_run (m : EnvMap) (e : KeyEvent) :
    (e.run m).keys.Sublist m.keys
      ∨ ∃ k, e.sets k ∧ k ∉ m.keys ∧ (e.run m).keys = m.keys ++ [k] := by
  cases e with
  | set k v =>
    rw [run, EnvMap.keys_insert]
    by_cases hk : k ∈ m.keys
    · rw [if_pos hk]
      exact Or.inl (List.Sublist.refl _)
    · rw [if_neg hk]
      exact Or.inr ⟨k, sets_set.mpr rfl, hk, rfl⟩
  | clear => exact Or.inl (List.nil_sublist _)
  | drop f =>
    rw [run, KeyFilter.keys_apply]
    exact Or.inl List.filter_sublist

end KeyEvent

/-! ## 4. What all events do to the empty map -/

theorem mapOf_append_singleton (es : List KeyEvent) (e : KeyEvent) :
    mapOf (es ++ [e]) = e.run (mapOf es) := by
  unfold mapOf
  rw [List.foldl_append, List.foldl_cons, List.foldl_nil]

variable {es : List KeyEvent} {key value : Text}

theorem get?_mapOf : (mapOf es).get? key = some value ↔ IsLastSet key value es := by
  induction es using List.reverseRecOn with
  | nil => exact iff_of_false (fun h => nomatch h) not_since_nil
  | append_singleton es e ih =>
    rw [mapOf_append_singleton, KeyEvent.get?_run, ih, isLastSet_append_singleton]

theorem mem_keys_mapOf : key ∈ (mapOf es).keys ↔ IsPresent key es := by
  induction es using List.reverseRecOn with
  | nil => exact iff_of_false List.not_mem_nil not_since_nil
  | append_singleton es e ih =>
    rw [mapOf_append_singleton, KeyEvent.mem_keys_run, ih, isPresent_append_singleton]

/-! ## 5. The order of the keys -/

section
variable {n n' : Nat}

theorem IsFirstSet.lt_length (h : IsFirstSet key n es) : n < es.length := by
  obtain ⟨before, e, later, rfl, ⟨rfl, -⟩, -⟩ := h
  simp

theorem IsFirstSet.isPresent (h : IsFirstSet key n es) : IsPresent key es := by
  obtain ⟨before, e, later, hes, ⟨-, hsets, -⟩, hlater⟩ := h
  exact ⟨before, e, later, hes, hsets, hlater⟩

/-- A key that is present has its place from before. -/
theorem IsFirstSet.of_append {e : KeyEvent} (h : IsFirstSet key n (es ++ [e]))
    (hpresent : IsPresent key es) : IsFirstSet key n es := by
  rcases isFirstSet_append_singleton.mp h with ⟨-, -, habsent⟩ | ⟨-, hbefore⟩
  · exact absurd hpresent habsent
  · exact hbefore

theorem exists_isFirstSet (h : IsPresent key es) : ∃ n, IsFirstSet key n es := by
  induction es using List.reverseRecOn with
  | nil => exact absurd h not_since_nil
  | append_singleton es e ih =>
    by_cases hbefore : IsPresent key es
    · obtain ⟨n, hn⟩ := ih hbefore
      -- an event that sets the key does not take it out
      have hstays : ¬ e.removes key := by
        rcases isPresent_append_singleton.mp h with ⟨value, rfl⟩ | ⟨hstays, -⟩
        · exact not_false
        · exact hstays
      exact ⟨n, isFirstSet_append_singleton.mpr (Or.inr ⟨hstays, hn⟩)⟩
    · rcases isPresent_append_singleton.mp h with hsets | ⟨-, hpresent⟩
      · exact ⟨es.length, isFirstSet_append_singleton.mpr (Or.inl ⟨rfl, hsets, hbefore⟩)⟩
      · exact absurd hpresent hbefore

theorem IsFirstSet.unique (h : IsFirstSet key n es) (h' : IsFirstSet key n' es) : n = n' := by
  induction es using List.reverseRecOn with
  | nil => exact absurd h not_since_nil
  | append_singleton es e ih =>
    by_cases hbefore : IsPresent key es
    · exact ih (h.of_append hbefore) (h'.of_append hbefore)
    · -- the key is new, so the last event is the one that gave it its place
      have hlast : ∀ {k}, IsFirstSet key k (es ++ [e]) → es.length = k := by
        intro k hk
        rcases isFirstSet_append_singleton.mp hk with ⟨hlength, -⟩ | ⟨-, hold⟩
        · exact hlength
        · exact absurd hold.isPresent hbefore
      exact (hlast h).symm.trans (hlast h')

end

/-- The first key was set before the second, both since they were last absent. -/
def ComesBefore (es : List KeyEvent) (key key' : Text) : Prop :=
  ∀ n n', IsFirstSet key n es → IsFirstSet key' n' es → n < n'

theorem ComesBefore.append {e : KeyEvent} {key' : Text} (h : ComesBefore es key key')
    (hkey : IsPresent key es) (hkey' : IsPresent key' es) :
    ComesBefore (es ++ [e]) key key' :=
  fun n n' hn hn' => h n n' (hn.of_append hkey) (hn'.of_append hkey')

theorem pairwise_comesBefore (es : List KeyEvent) :
    (mapOf es).keys.Pairwise (ComesBefore es) := by
  induction es using List.reverseRecOn with
  | nil => exact List.Pairwise.nil
  | append_singleton es e ih =>
    have hold : (mapOf es).keys.Pairwise (ComesBefore (es ++ [e])) :=
      ih.imp_of_mem fun hk hk' h => h.append (mem_keys_mapOf.mp hk) (mem_keys_mapOf.mp hk')
    rw [mapOf_append_singleton]
    rcases KeyEvent.keys_run (mapOf es) e with hsub | ⟨k, hsets, hnew, hkeys⟩
    · exact hold.sublist hsub
    · rw [hkeys, List.pairwise_append]
      refine ⟨hold, List.pairwise_singleton _ _, ?_⟩
      intro k' hk' _ hmem n n' hn hn'
      rw [List.mem_singleton] at hmem
      subst hmem
      -- the new key has the last place, all others have earlier ones
      have hlt : n < es.length := (hn.of_append (mem_keys_mapOf.mp hk')).lt_length
      rcases isFirstSet_append_singleton.mp hn' with ⟨rfl, -⟩ | ⟨-, hold'⟩
      · exact hlt
      · exact absurd (mem_keys_mapOf.mpr hold'.isPresent) hnew

/-! ## 6. The map of a history -/

/-- The map holds what the events say, in their order, and its views agree. -/
structure IsMapOf (es : List KeyEvent) (m : EnvMap) : Prop where
  nodup_keys : m.keys.Nodup
  get?_eq_some_iff : ∀ key value, m.get? key = some value ↔ IsLastSet key value es
  get?_eq_none_iff : ∀ key, m.get? key = none ↔ ¬ IsPresent key es
  contains_iff : ∀ key, m.contains key ↔ IsPresent key es
  isEmpty_iff : m.isEmpty ↔ ∀ key, ¬ IsPresent key es
  size_eq : m.size = m.keys.length
  existsUnique_place : ∀ key ∈ m.keys, ∃! n, IsFirstSet key n es
  ordered : m.keys.Pairwise (ComesBefore es)
  entries_follow_keys :
    List.Forall₂ (fun key e => e.1 = key ∧ IsLastSet key e.2 es) m.keys m.entries

theorem mapOf_isMapOf (es : List KeyEvent) : IsMapOf es (mapOf es) where
  nodup_keys := (mapOf es).nodup
  get?_eq_some_iff _ _ := get?_mapOf
  get?_eq_none_iff _ := by rw [EnvMap.get?_eq_none_iff, mem_keys_mapOf]
  contains_iff _ := by rw [EnvMap.contains, List.contains_iff_mem, mem_keys_mapOf]
  isEmpty_iff := by
    simp only [← mem_keys_mapOf, ← List.eq_nil_iff_forall_not_mem, EnvMap.keys, EnvMap.isEmpty,
      List.map_eq_nil_iff, List.isEmpty_iff]
  size_eq := (mapOf es).size_eq_length_keys
  existsUnique_place _ h := by
    obtain ⟨n, hn⟩ := exists_isFirstSet (mem_keys_mapOf.mp h)
    exact ⟨n, hn, fun n' hn' => hn'.unique hn⟩
  ordered := pairwise_comesBefore es
  entries_follow_keys := by
    rw [EnvMap.keys, List.forall₂_map_left_iff, List.forall₂_same]
    exact fun e he => ⟨rfl, get?_mapOf.mp (EnvMap.get?_eq_some_iff.mpr he)⟩

/-- After any changes the map is the one of the history, and a filter leaves the entries that it
does not ignore as they stand; a second time it changes nothing. -/
theorem after_isMapOf (changes : List MapChange) :
    IsMapOf (history changes) (EnvMap.after changes)
      ∧ ∀ f : KeyFilter,
        f.apply (f.apply (EnvMap.after changes)) = f.apply (EnvMap.after changes)
          ∧ (f.apply (EnvMap.after changes)).entries.Sublist (EnvMap.after changes).entries
          ∧ ∀ key, (f.apply (EnvMap.after changes)).get? key
              = if f.ignores key then none else (EnvMap.after changes).get? key := by
  constructor
  · rw [EnvMap.after_eq_mapOf]
    exact mapOf_isMapOf (history changes)
  · intro f
    refine ⟨?_, List.filter_sublist, ?_⟩
    · exact EnvMap.ext (by simp [KeyFilter.apply, List.filter_filter])
    · intro key
      rw [KeyFilter.apply, EnvMap.get?_filterKeys_eq_ite]
      by_cases hf : f.ignores key <;> simp [KeyFilter.keeps, hf]

end EnvAudit
