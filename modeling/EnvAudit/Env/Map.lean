import EnvAudit.Env.Line

/-!
# Env maps

Keys with their values in the order in which the keys were first set.  A key occurs once: setting
it again replaces the value and leaves the key at its place.
-/

namespace EnvAudit

/-- The entry of the key replaced, or a new entry at the end. -/
def setEntry (key value : Text) : List Binding → List Binding
  | [] => [(key, value)]
  | e :: es => if e.1 = key then (key, value) :: es else e :: setEntry key value es

theorem map_fst_setEntry (key value : Text) (es : List Binding) :
    (setEntry key value es).map Prod.fst
      = if key ∈ es.map Prod.fst then es.map Prod.fst else es.map Prod.fst ++ [key] := by
  induction es with
  | nil => simp [setEntry]
  | cons e es ih =>
    by_cases h : e.1 = key
    · simp [setEntry, h]
    · have h' : key ≠ e.1 := Ne.symm h
      simp only [setEntry, h, if_false, List.map_cons, ih, List.mem_cons, h', false_or]
      split <;> simp

theorem lookup_filter {β : Type} {keep : Text → Bool} {key : Text} (h : keep key)
    (es : List (Text × β)) : (es.filter fun e => keep e.1).lookup key = es.lookup key := by
  induction es with
  | nil => rfl
  | cons e es ih =>
    rw [List.filter_cons]
    by_cases hk : keep e.1
    · rw [if_pos hk, List.lookup_cons, List.lookup_cons, ih]
    · -- an entry that is left out has another key
      have he : (key == e.1) = false := by
        rw [beq_eq_false_iff_ne]
        intro he
        exact hk (he ▸ h)
      rw [if_neg hk, ih, List.lookup_cons, he]

/-- An ordered map from keys to values; no key occurs twice. -/
structure EnvMap where
  entries : List Binding
  nodup : (entries.map Prod.fst).Nodup

namespace EnvMap

def empty : EnvMap := ⟨[], List.nodup_nil⟩

instance : EmptyCollection EnvMap := ⟨empty⟩

def keys (m : EnvMap) : List Text := m.entries.map Prod.fst

def get? (m : EnvMap) (key : Text) : Option Text := m.entries.lookup key

def contains (m : EnvMap) (key : Text) : Bool := m.keys.contains key

def size (m : EnvMap) : Nat := m.entries.length

def isEmpty (m : EnvMap) : Bool := m.entries.isEmpty

theorem nodup_setEntry {es : List Binding} (h : (es.map Prod.fst).Nodup) (key value : Text) :
    ((setEntry key value es).map Prod.fst).Nodup := by
  rw [map_fst_setEntry]
  split
  · exact h
  · rename_i hk
    refine List.nodup_append.mpr ⟨h, by simp, ?_⟩
    intro a ha b hb
    rw [List.mem_singleton] at hb
    exact fun hab => hk (hb ▸ hab ▸ ha)

/-- Sets a key: a known key keeps its place, a new one comes last. -/
def insert (m : EnvMap) (key value : Text) : EnvMap :=
  ⟨setEntry key value m.entries, nodup_setEntry m.nodup key value⟩

/-- Sets the bindings one after the other. -/
def ofList (bs : List Binding) : EnvMap := bs.foldl (fun m b => m.insert b.1 b.2) ∅

/-- The map that an env file describes. -/
def parse (raw : Text) : EnvMap := ofList (assignments raw)

/-- The entries whose key is kept, in their order. -/
def filterKeys (keep : Text → Bool) (m : EnvMap) : EnvMap :=
  ⟨m.entries.filter fun e => keep e.1,
    m.nodup.sublist ((List.filter_sublist (p := fun e => keep e.1)).map Prod.fst)⟩

@[simp] theorem keys_insert (m : EnvMap) (key value : Text) :
    (m.insert key value).keys = if key ∈ m.keys then m.keys else m.keys ++ [key] :=
  map_fst_setEntry key value m.entries

theorem ext {m m' : EnvMap} (h : m.entries = m'.entries) : m = m' := by
  cases m
  cases m'
  cases h
  rfl

@[simp] theorem entries_filterKeys (keep : Text → Bool) (m : EnvMap) :
    (m.filterKeys keep).entries = m.entries.filter fun e => keep e.1 := rfl

@[simp] theorem keys_filterKeys (keep : Text → Bool) (m : EnvMap) :
    (m.filterKeys keep).keys = m.keys.filter keep :=
  (List.filter_map).symm

theorem size_eq_length_keys (m : EnvMap) : m.size = m.keys.length :=
  (List.length_map _).symm

@[simp] theorem contains_filterKeys (keep : Text → Bool) (m : EnvMap) (key : Text) :
    (m.filterKeys keep).contains key = (m.contains key && keep key) := by
  rw [Bool.eq_iff_iff]
  simp [contains, and_comm]

theorem get?_filterKeys {keep : Text → Bool} {key : Text} (h : keep key) (m : EnvMap) :
    (m.filterKeys keep).get? key = m.get? key :=
  lookup_filter h m.entries

end EnvMap

end EnvAudit
