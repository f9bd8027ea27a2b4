import Mathlib.Data.List.Basic
import EnvAudit.Env.Map

/-!
# Looking up keys

An ordered map is read by key: `get?_eq_some_iff` says that this finds the entries and nothing else.
`get?_insertAll` and `entries_insertAll` say what a map holds after bindings are set one after the
other, by key for any bindings of different keys, and as a list where all keys are new.
-/

namespace EnvAudit

theorem setEntry_of_not_mem {key : Text} {es : List Binding} (h : key ∉ es.map Prod.fst)
    (value : Text) : setEntry key value es = es ++ [(key, value)] := by
  induction es with
  | nil => rfl
  | cons e es ih =>
    rw [List.map_cons, List.mem_cons, not_or] at h
    rw [setEntry, if_neg (Ne.symm h.1), ih h.2, List.cons_append]

theorem lookup_cons_eq_ite {β : Type} (e : Text × β) (es : List (Text × β)) (k : Text) :
    (e :: es).lookup k = if k = e.1 then some e.2 else es.lookup k := by
  rw [List.lookup_cons]
  by_cases h : k = e.1
  · simp [h]
  · rw [if_neg h, beq_eq_false_iff_ne.mpr h]

theorem lookup_setEntry (key value k : Text) (es : List Binding) :
    (setEntry key value es).lookup k = if k = key then some value else es.lookup k := by
  induction es with
  | nil => exact lookup_cons_eq_ite (key, value) [] k
  | cons e es ih =>
    rw [setEntry, lookup_cons_eq_ite e es]
    by_cases he : e.1 = key
    · subst he
      rw [if_pos rfl, lookup_cons_eq_ite]
      by_cases h : k = e.1 <;> simp [h]
    · -- an entry of another key stays, and does not hide the one that is set
      rw [if_neg he, lookup_cons_eq_ite, ih]
      by_cases h : k = key
      · simp [h, Ne.symm he]
      · simp [h]

theorem mem_of_lookup {α β : Type} [BEq α] [LawfulBEq α] {es : List (α × β)} {key : α} {value : β}
    (h : es.lookup key = some value) : (key, value) ∈ es := by
  rcases List.lookup_eq_some_iff.mp h with ⟨before, after, rfl, -⟩
  exact List.mem_append_right before List.mem_cons_self

/-- Where no key occurs twice, looking a key up finds just the pairs of the list. -/
theorem lookup_eq_some_iff_mem {β : Type} {es : List (Text × β)} (h : (es.map Prod.fst).Nodup)
    {key : Text} {value : β} : es.lookup key = some value ↔ (key, value) ∈ es := by
  induction es with
  | nil => simp
  | cons e es ih =>
    obtain ⟨k, v⟩ := e
    rw [List.map_cons, List.nodup_cons] at h
    rw [lookup_cons_eq_ite, List.mem_cons, Prod.mk.injEq, ← ih h.2]
    by_cases hk : key = k
    · subst hk
      have hnone : es.lookup key ≠ some value := fun hsome =>
        h.1 (List.mem_map.mpr ⟨(key, value), (ih h.2).mp hsome, rfl⟩)
      simp [hnone, eq_comm]
    · simp [hk]

theorem lookup_eq_none_iff_not_mem {es : List Binding} {key : Text} :
    es.lookup key = none ↔ key ∉ es.map Prod.fst := by
  rw [List.lookup_eq_none_iff, List.mem_map, not_exists]
  constructor
  · rintro h e ⟨he, rfl⟩
    simpa using h e he
  · intro h e he
    simpa using fun heq => h e ⟨he, Eq.symm heq⟩

namespace EnvMap

variable {m : EnvMap} {k v : Text}

/-! ## 1. Entries by key -/

theorem get?_eq_some_iff : m.get? k = some v ↔ (k, v) ∈ m.entries :=
  lookup_eq_some_iff_mem m.nodup

theorem get?_eq_none_iff : m.get? k = none ↔ k ∉ m.keys := lookup_eq_none_iff_not_mem

theorem exists_get?_of_mem_keys (h : k ∈ m.keys) : ∃ v, m.get? k = some v :=
  Option.ne_none_iff_exists'.mp fun hnone => get?_eq_none_iff.mp hnone h

theorem mem_keys_of_get? (h : m.get? k = some v) : k ∈ m.keys := by
  by_contra hnot
  rw [get?_eq_none_iff.mpr hnot] at h
  cases h

theorem get?_insert (m : EnvMap) (key value k : Text) :
    (m.insert key value).get? k = if k = key then some value else m.get? k :=
  lookup_setEntry key value k m.entries

theorem get?_filterKeys_eq_ite (keep : Text → Bool) (m : EnvMap) (k : Text) :
    (m.filterKeys keep).get? k = if keep k then m.get? k else none := by
  split
  next h => exact get?_filterKeys h m
  next h =>
    rw [get?_eq_none_iff, keys_filterKeys, List.mem_filter]
    exact fun hmem => h hmem.2

/-! ## 2. Several bindings -/

/-- Sets the bindings one after the other. -/
def insertAll (m : EnvMap) (bs : List Binding) : EnvMap :=
  bs.foldl (fun m b => m.insert b.1 b.2) m

theorem insertAll_cons (m : EnvMap) (b : Binding) (bs : List Binding) :
    m.insertAll (b :: bs) = (m.insert b.1 b.2).insertAll bs := rfl

theorem ofList_append (bs bs' : List Binding) :
    ofList (bs ++ bs') = (ofList bs).insertAll bs' :=
  List.foldl_append

/-- Of bindings of different keys, each gives its key its value. -/
theorem get?_insertAll {bs : List Binding} (h : (bs.map Prod.fst).Nodup) (m : EnvMap) (k : Text) :
    (m.insertAll bs).get? k = (bs.lookup k <|> m.get? k) := by
  induction bs generalizing m with
  | nil => rfl
  | cons b bs ih =>
    rw [List.map_cons, List.nodup_cons] at h
    rw [insertAll_cons, ih h.2, get?_insert, lookup_cons_eq_ite]
    by_cases hk : k = b.1
    · -- no later binding takes the value back
      have hlater : bs.lookup k = none := lookup_eq_none_iff_not_mem.mpr (hk ▸ h.1)
      rw [hlater, if_pos hk, if_pos hk]
      rfl
    · rw [if_neg hk, if_neg hk]

/-- Bindings of new keys come behind the entries. -/
theorem entries_insertAll {bs : List Binding} (hbs : (bs.map Prod.fst).Nodup) (m : EnvMap)
    (hnew : ∀ b ∈ bs, b.1 ∉ m.keys) : (m.insertAll bs).entries = m.entries ++ bs := by
  induction bs generalizing m with
  | nil => exact (List.append_nil _).symm
  | cons b bs ih =>
    rw [List.map_cons, List.nodup_cons] at hbs
    rw [List.forall_mem_cons] at hnew
    have hentries : (m.insert b.1 b.2).entries = m.entries ++ [b] :=
      setEntry_of_not_mem hnew.1 b.2
    have hlater : ∀ b' ∈ bs, b'.1 ∉ (m.insert b.1 b.2).keys := by
      intro b' hb'
      have hne : b'.1 ≠ b.1 := fun heq => hbs.1 (heq ▸ List.mem_map_of_mem hb')
      simp [keys_insert, hnew.1, hnew.2 b' hb', hne]
    rw [insertAll_cons, ih hbs.2 _ hlater, hentries, List.append_assoc, List.singleton_append]

theorem keys_insertAll {bs : List Binding} (hbs : (bs.map Prod.fst).Nodup) (m : EnvMap)
    (hnew : ∀ b ∈ bs, b.1 ∉ m.keys) : (m.insertAll bs).keys = m.keys ++ bs.map Prod.fst := by
  rw [keys, entries_insertAll hbs m hnew, List.map_append]
  rfl

theorem filterKeys_insert {keep : Text → Bool} {key : Text} (h : keep key) (m : EnvMap)
    (value : Text) :
    (m.insert key value).filterKeys keep = (m.filterKeys keep).insert key value := by
  apply ext
  show (setEntry key value m.entries).filter (fun e => keep e.1)
    = setEntry key value (m.entries.filter fun e => keep e.1)
  induction m.entries with
  | nil => simp [setEntry, h]
  | cons e es ih =>
    rw [setEntry]
    by_cases he : e.1 = key
    · simp [he, h, setEntry]
    · -- an entry that is dropped is not the one that is set
      by_cases hk : keep e.1
      · simp [he, hk, ih, setEntry]
      · simp [he, hk, ih]

theorem filterKeys_insertAll {keep : Text → Bool} {bs : List Binding} (h : ∀ b ∈ bs, keep b.1)
    (m : EnvMap) : (m.insertAll bs).filterKeys keep = (m.filterKeys keep).insertAll bs := by
  induction bs generalizing m with
  | nil => rfl
  | cons b bs ih =>
    rw [List.forall_mem_cons] at h
    rw [insertAll_cons, insertAll_cons, ih h.2, filterKeys_insert h.1]

/-- The keys with their values in a map; a key that it does not have is left out. -/
def bindingsOf (m : EnvMap) (keys : List Text) : List Binding :=
  keys.filterMap fun k => (m.get? k).map fun v => (k, v)

theorem mem_bindingsOf {keys : List Text} {b : Binding} :
    b ∈ m.bindingsOf keys ↔ b.1 ∈ keys ∧ b ∈ m.entries := by
  obtain ⟨k, v⟩ := b
  rw [← get?_eq_some_iff]
  simp only [bindingsOf, List.mem_filterMap, Option.map_eq_some_iff, Prod.mk.injEq]
  constructor
  · rintro ⟨k', hk', v', hv', rfl, rfl⟩
    exact ⟨hk', hv'⟩
  · rintro ⟨hk, hv⟩
    exact ⟨k, hk, v, hv, rfl, rfl⟩

theorem map_fst_bindingsOf {keys : List Text} (h : ∀ k ∈ keys, k ∈ m.keys) :
    (m.bindingsOf keys).map Prod.fst = keys := by
  induction keys with
  | nil => rfl
  | cons k keys ih =>
    rw [List.forall_mem_cons] at h
    obtain ⟨v, hv⟩ := exists_get?_of_mem_keys h.1
    have hcons : m.bindingsOf (k :: keys) = (k, v) :: m.bindingsOf keys := by
      simp [bindingsOf, hv]
    rw [hcons, List.map_cons, ih h.2]

theorem bindingsOf_filterKeys {keep : Text → Bool} {keys : List Text} (h : ∀ k ∈ keys, keep k)
    (m : EnvMap) : (m.filterKeys keep).bindingsOf keys = m.bindingsOf keys := by
  refine List.filterMap_congr fun k hk => ?_
  rw [get?_filterKeys (h k hk)]

end EnvMap

end EnvAudit
