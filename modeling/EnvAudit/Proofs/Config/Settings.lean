import EnvAudit.Failure
import EnvAudit.Proofs.Config.Values
import EnvAudit.Proofs.Json.Documents

/-!
# Settings of a document

Which objects are settings, and which settings they are.  A member of another name, a repeated one
or one of the wrong kind is an error; a setting that has no member is left unset.
-/

namespace EnvAudit

/-! ## 1. Kinds of settings -/

inductive SettingKind
  | text
  | flag
  | texts
  | weights

/-- The names of the settings with the kinds of their values. -/
def settingKinds : List (Text × SettingKind) :=
  [("env", .text), ("example", .text), ("checkValues", .flag), ("ignore", .texts),
    ("ignoreRegex", .texts), ("exclude", .texts), ("extensions", .texts), ("minSeverity", .text),
    ("strict", .flag), ("t3Schema", .text), ("healthWeights", .weights)].map
      fun s => (s.1.toList, s.2)

inductive SettingValue
  | text (value : Option Text)
  | flag (value : Option Bool)
  | texts (value : List Text)
  | weights (value : Option HealthWeights)

namespace SettingKind

/-- The documents that are values of the kind. -/
def Accepts : SettingKind → JsonSyntax → Prop
  | text, j => j = .null ∨ ∃ t, WritesText t j
  | flag, j => j = .null ∨ ∃ b, WritesBool b j
  | texts, j => ∃ items, j = .array items ∧ ∀ i ∈ items, ∃ t, WritesText t i
  | weights, j => j = .null ∨ IsWeights j

/-- The value of a setting that a project does not set. -/
def unset : SettingKind → SettingValue
  | text => .text none
  | flag => .flag none
  | texts => .texts []
  | weights => .weights none

def read : SettingKind → ValueReader SettingValue
  | text, j => (readOptional readText j).map .text
  | flag, j => (readOptional readBool j).map .flag
  | texts, j => (readTexts j).map .texts
  | weights, j => (readOptional readWeights j).map .weights

end SettingKind

namespace SettingValue

def kind : SettingValue → SettingKind
  | text _ => .text
  | flag _ => .flag
  | texts _ => .texts
  | weights _ => .weights

def IsWrittenBy : SettingValue → JsonSyntax → Prop
  | text v => WritesOptional WritesText v
  | flag v => WritesOptional WritesBool v
  | texts v => WritesTexts v
  | weights v => WritesOptional WritesWeights v

end SettingValue

/-- The settings by name. -/
def Config.settings (c : Config) : List (Text × SettingValue) :=
  [("env", .text c.envPath), ("example", .text c.examplePath), ("checkValues", .flag c.checkValues),
    ("ignore", .texts c.ignore), ("ignoreRegex", .texts c.ignoreRegex),
    ("exclude", .texts c.exclude), ("extensions", .texts c.extensions),
    ("minSeverity", .text c.minSeverity), ("strict", .flag c.strict),
    ("t3Schema", .text c.schemaPath), ("healthWeights", .weights c.healthWeights)].map
      fun s => (s.1.toList, s.2)

/-- Every member is a setting of its kind, and none is repeated. -/
structure IsSettings (members : List (Text × JsonSyntax)) : Prop where
  known : ∀ m ∈ members, ∃ s ∈ settingKinds, IsNamed s.1 m ∧ s.2.Accepts m.2
  once : (memberNames members).Nodup

/-- Every setting is what its member writes, or unset if it has none. -/
def Config.IsGivenBy (members : List (Text × JsonSyntax)) (c : Config) : Prop :=
  ∀ s ∈ c.settings, IsGiven SettingValue.IsWrittenBy members s.1 s.2 s.2.kind.unset

/-! ## 2. One setting -/

section
variable {k : SettingKind} {v : SettingValue} {j : JsonSyntax}

theorem readOptional_readText {t : Option Text} :
    readOptional readText j = some t ↔ WritesOptional WritesText t j :=
  readOptional_eq_some (fun _ _ => readText_eq_some) rfl

theorem readOptional_readBool {b : Option Bool} :
    readOptional readBool j = some b ↔ WritesOptional WritesBool b j :=
  readOptional_eq_some (fun _ _ => readBool_eq_some) rfl

theorem readOptional_readWeights {w : Option HealthWeights} :
    readOptional readWeights j = some w ↔ WritesOptional WritesWeights w j :=
  readOptional_eq_some (fun _ _ => readWeights_eq_some) rfl

theorem SettingKind.read_eq_some : k.read j = some v ↔ v.kind = k ∧ v.IsWrittenBy j := by
  cases k <;> cases v <;>
    simp [read, SettingValue.kind, SettingValue.IsWrittenBy, readOptional_readText,
      readOptional_readBool, readTexts_eq_some, readOptional_readWeights]

theorem SettingKind.exists_read_iff : (∃ v, k.read j = some v) ↔ k.Accepts j := by
  have hsome {α : Type} {f : α → SettingValue} {o : Option α} :
      (∃ v, o.map f = some v) ↔ ∃ a, o = some a := by
    simp [Option.map_eq_some_iff]
  cases k with
  | text => simp only [read, Accepts, hsome, readOptional_readText, exists_writesOptional]
  | flag => simp only [read, Accepts, hsome, readOptional_readBool, exists_writesOptional]
  | texts => simp only [read, Accepts, hsome, readTexts_eq_some, exists_writesTexts_iff]
  | weights =>
    simp only [read, Accepts, hsome, readOptional_readWeights, exists_writesOptional,
      exists_writesWeights_iff]

end

/-- Reads the value of the setting at this place. -/
def readSetting (place : Nat) (j : JsonSyntax) : Option SettingValue :=
  settingKinds[place]?.bind fun s => s.2.read j

namespace Config

def values (c : Config) : List SettingValue := c.settings.map Prod.snd

theorem values_injective {c c' : Config} (h : c.values = c'.values) : c = c' := by
  cases c
  cases c'
  simpa [values, settings] using h

theorem map_values_readAt (c : Config) (place : Nat) (j : JsonSyntax) :
    (c.readAt place j).map values = (readSetting place j).map (c.values.set place ·) := by
  match place with
  | 0 | 1 | 7 | 9 =>
    show ((readOptional readText j).map _).map _ = ((readOptional readText j).map _).map _
    cases readOptional readText j <;> rfl
  | 2 | 8 =>
    show ((readOptional readBool j).map _).map _ = ((readOptional readBool j).map _).map _
    cases readOptional readBool j <;> rfl
  | 3 | 4 | 5 | 6 =>
    show ((readTexts j).map _).map _ = ((readTexts j).map _).map _
    cases readTexts j <;> rfl
  | 10 =>
    show ((readOptional readWeights j).map _).map _ = ((readOptional readWeights j).map _).map _
    cases readOptional readWeights j <;> rfl
  | n + 11 => rfl

theorem mem_settingNames_of_fromMembers {c c' : Config} {ms : List (Text × JsonSyntax)}
    (h : c.fromMembers ms = some c') : ∀ m ∈ ms, m.1 ∈ settingNames := by
  induction ms generalizing c with
  | nil => exact List.forall_mem_nil _
  | cons m ms ih =>
    rw [fromMembers, Option.bind_eq_some_iff] at h
    obtain ⟨place, hplace, h⟩ := h
    obtain ⟨c₁, -, hrest⟩ := Option.bind_eq_some_iff.mp h
    exact List.forall_mem_cons.mpr
      ⟨List.mem_of_getElem? (getElem?_of_idxOf? hplace), ih hrest⟩

theorem map_values_fromMembers {c : Config} {ms : List (Text × JsonSyntax)}
    (h : ∀ m ∈ ms, m.1 ∈ settingNames) :
    (c.fromMembers ms).map values = fill settingNames readSetting c.values ms := by
  induction ms generalizing c with
  | nil => rfl
  | cons m ms ih =>
    obtain ⟨name, j⟩ := m
    rw [List.forall_mem_cons] at h
    obtain ⟨place, hplace⟩ := Option.isSome_iff_exists.mp (List.isSome_idxOf?.mpr h.1)
    have hread := map_values_readAt c place j
    rw [fromMembers, hplace, Option.bind_some, fill_cons_of_some hplace]
    cases hc : c.readAt place j with
    | none =>
      rw [hc, Option.map_none, eq_comm, Option.map_eq_none_iff] at hread
      rw [hread]
      rfl
    | some c₁ =>
      rw [hc, Option.map_some, eq_comm, Option.map_eq_some_iff] at hread
      obtain ⟨v, hv, hset⟩ := hread
      rw [Option.bind_some, ih h.2, ← hset, hv]
      rfl

/-- Members are read in turn; all of them have to be settings. -/
theorem fromMembers_eq_some {c c' : Config} {ms : List (Text × JsonSyntax)} :
    c.fromMembers ms = some c'
      ↔ (∀ m ∈ ms, m.1 ∈ settingNames)
        ∧ fill settingNames readSetting c.values ms = some c'.values := by
  constructor
  · intro h
    have hknown := mem_settingNames_of_fromMembers h
    exact ⟨hknown, by rw [← map_values_fromMembers hknown, h]; rfl⟩
  · rintro ⟨hknown, h⟩
    rw [← map_values_fromMembers hknown, Option.map_eq_some_iff] at h
    obtain ⟨c₁, hc₁, hvalues⟩ := h
    rwa [← values_injective hvalues]

end Config

/-! ## 3. All settings -/

section
variable {members named : List (Text × JsonSyntax)} {c : Config} {name : Text} {place : Nat}

theorem settingNames_eq_map : settingNames = settingKinds.map Prod.fst := rfl

theorem nodup_settingNames : settingNames.Nodup := by decide

theorem map_settings (c : Config) :
    c.settings.map (fun s => (s.1, s.2.kind)) = settingKinds := by
  simp [settingKinds, Config.settings, SettingValue.kind]

theorem getElem?_settingKinds {s : Text × SettingValue} (h : c.settings[place]? = some s) :
    settingKinds[place]? = some (s.1, s.2.kind) := by
  rw [← map_settings c, List.getElem?_map, h]
  rfl

theorem getElem?_values_default {s : Text × SettingKind} (h : settingKinds[place]? = some s) :
    Config.default.values[place]? = some s.2.unset := by
  have hvalues : Config.default.values = settingKinds.map fun s => s.2.unset := rfl
  rw [hvalues, List.getElem?_map, h]
  rfl

theorem exists_accepts_iff {j : JsonSyntax} :
    (∃ s ∈ settingKinds, s.1 = name ∧ s.2.Accepts j)
      ↔ name ∈ settingNames
        ∧ ∀ place, settingNames.idxOf? name = some place → ∃ v, readSetting place j = some v := by
  have hread {s : Text × SettingKind} {place : Nat} (hs : settingKinds[place]? = some s) :
      (∃ v, readSetting place j = some v) ↔ s.2.Accepts j := by
    rw [readSetting, hs]
    exact SettingKind.exists_read_iff
  have hnames (place : Nat) : settingNames[place]? = settingKinds[place]?.map Prod.fst := by
    rw [settingNames_eq_map, List.getElem?_map]
  constructor
  · rintro ⟨s, hs, rfl, haccepts⟩
    refine ⟨List.mem_map_of_mem hs, fun place hplace => ?_⟩
    obtain ⟨i, hi⟩ := List.mem_iff_getElem?.mp hs
    -- no name is there twice, so the place is the one of this setting
    have hname : settingNames[i]? = some s.1 := by rw [hnames, hi]; rfl
    rw [(idxOf?_eq_some_iff_getElem? nodup_settingNames).mpr hname] at hplace
    cases hplace
    exact (hread hi).mpr haccepts
  · rintro ⟨hknown, h⟩
    obtain ⟨place, hplace⟩ := Option.isSome_iff_exists.mp (List.isSome_idxOf?.mpr hknown)
    have hname := getElem?_of_idxOf? hplace
    rw [hnames, Option.map_eq_some_iff] at hname
    obtain ⟨s, hs, rfl⟩ := hname
    exact ⟨s, List.mem_of_getElem? hs, rfl, (hread hs).mp (h place hplace)⟩

theorem IsSettings.exists_isNamed (h : IsSettings members) :
    ∀ m ∈ members, ∃ name, IsNamed name m := by
  intro m hm
  obtain ⟨s, -, hname, -⟩ := h.known m hm
  exact ⟨s.1, hname⟩

theorem isSettings_iff (h : namedMembers? members = some named) :
    IsSettings members
      ↔ (∀ m ∈ named, m.1 ∈ settingNames)
        ∧ (∃ values, fill settingNames readSetting Config.default.values named = some values)
        ∧ ∀ name ∈ settingNames, (named.map Prod.fst).count name ≤ 1 := by
  have hknown : (∀ m ∈ members, ∃ s ∈ settingKinds, IsNamed s.1 m ∧ s.2.Accepts m.2)
      ↔ ∀ m ∈ named, ∃ s ∈ settingKinds, s.1 = m.1 ∧ s.2.Accepts m.2 := by
    constructor
    · rintro hmembers ⟨name, j⟩ hmem
      obtain ⟨m, hm, hname, rfl⟩ := (mem_named_iff h).mp hmem
      obtain ⟨s, hs, hname', haccepts⟩ := hmembers m hm
      exact ⟨s, hs, Option.some.inj (hname'.symm.trans hname), haccepts⟩
    · intro hnamed m hm
      obtain ⟨name, hname⟩ := exists_namedMembers?_iff.mp ⟨named, h⟩ m hm
      obtain ⟨s, hs, rfl, haccepts⟩ :=
        hnamed (name, m.2) ((mem_named_iff h).mpr ⟨m, hm, hname, rfl⟩)
      exact ⟨s, hs, hname, haccepts⟩
  have honce (hall : ∀ m ∈ named, m.1 ∈ settingNames) :
      (memberNames members).Nodup
        ↔ ∀ name ∈ settingNames, (named.map Prod.fst).count name ≤ 1 := by
    rw [memberNames_eq_map h, List.nodup_map_iff (Option.some_injective _),
      List.nodup_iff_count_le_one]
    refine ⟨fun h name _ => h name, fun h name => ?_⟩
    by_cases hname : name ∈ settingNames
    · exact h name hname
    · rw [List.count_eq_zero.mpr]
      · exact Nat.zero_le 1
      · intro hmem
        obtain ⟨m, hm, rfl⟩ := List.mem_map.mp hmem
        exact hname (hall m hm)
  simp only [exists_accepts_iff, forall_and] at hknown
  rw [exists_fill_iff]
  constructor
  · rintro ⟨hmembers, hnodup⟩
    obtain ⟨hall, hread⟩ := hknown.mp hmembers
    exact ⟨hall, hread, (honce hall).mp hnodup⟩
  · rintro ⟨hall, hread, hcount⟩
    exact ⟨hknown.mpr ⟨hall, hread⟩, (honce hall).mpr hcount⟩

theorem forall_filledAt_settings_iff (h : namedMembers? members = some named) :
    (∀ place name, settingNames[place]? = some name
        → FilledAt readSetting Config.default.values c.values named place name)
      ↔ c.IsGivenBy members := by
  have hplace {place : Nat} {s : Text × SettingValue} (hs : c.settings[place]? = some s) :
      FilledAt readSetting Config.default.values c.values named place s.1
        ↔ IsGiven SettingValue.IsWrittenBy members s.1 s.2 s.2.kind.unset := by
    have hkind := getElem?_settingKinds hs
    have hvalue : c.values[place]? = some s.2 := by
      rw [Config.values, List.getElem?_map, hs]
      rfl
    have hread {j : JsonSyntax} : readSetting place j = some s.2 ↔ s.2.IsWrittenBy j := by
      rw [readSetting, hkind]
      exact SettingKind.read_eq_some.trans (and_iff_right rfl)
    exact filledAt_iff_isGiven h hvalue (getElem?_values_default hkind) hread
  have hnames (place : Nat) : settingNames[place]? = c.settings[place]?.map Prod.fst := by
    rw [settingNames_eq_map, ← map_settings c, List.map_map, List.getElem?_map]
    rfl
  constructor
  · intro hfilled s hs
    obtain ⟨place, hs⟩ := List.mem_iff_getElem?.mp hs
    exact (hplace hs).mp (hfilled place s.1 (by rw [hnames, hs]; rfl))
  · intro hgiven place name hname
    rw [hnames, Option.map_eq_some_iff] at hname
    obtain ⟨s, hs, rfl⟩ := hname
    exact (hplace hs).mpr (hgiven s (List.mem_of_getElem? hs))

theorem ofSyntax_object_eq_some :
    Config.ofSyntax (.object members) = some c
      ↔ ∃ named, namedMembers? members = some named ∧ (∀ m ∈ named, m.1 ∈ settingNames)
          ∧ (∀ name ∈ settingNames, (named.map Prod.fst).count name ≤ 1)
          ∧ fill settingNames readSetting Config.default.values named = some c.values := by
  simp only [Config.ofSyntax, Option.bind_eq_bind, Option.bind_eq_some_iff, Option.guard_eq_some',
    exists_const, knownOnce_iff, Config.fromMembers_eq_some, and_left_comm]

/-- The object gives settings just if it is an object of settings, and then those it writes. -/
theorem ofSyntax_object_iff :
    Config.ofSyntax (.object members) = some c ↔ IsSettings members ∧ c.IsGivenBy members := by
  have hlength : Config.default.values.length = settingNames.length := rfl
  rw [ofSyntax_object_eq_some]
  constructor
  · rintro ⟨named, h, hall, honce, hfill⟩
    refine ⟨(isSettings_iff h).mpr ⟨hall, ⟨_, hfill⟩, honce⟩, ?_⟩
    exact (forall_filledAt_settings_iff h).mp
      ((fill_eq_some_iff nodup_settingNames hlength honce).mp hfill).2
  · rintro ⟨hsettings, hgiven⟩
    obtain ⟨named, h⟩ := exists_namedMembers?_iff.mpr hsettings.exists_isNamed
    obtain ⟨hall, -, honce⟩ := (isSettings_iff h).mp hsettings
    refine ⟨named, h, hall, honce, ?_⟩
    exact (fill_eq_some_iff nodup_settingNames hlength honce).mpr
      ⟨rfl, (forall_filledAt_settings_iff h).mpr hgiven⟩

theorem exists_ofSyntax_object_iff :
    (∃ c, Config.ofSyntax (.object members) = some c) ↔ IsSettings members := by
  constructor
  · rintro ⟨c, hc⟩
    exact (ofSyntax_object_iff.mp hc).1
  · intro hsettings
    obtain ⟨named, h⟩ := exists_namedMembers?_iff.mpr (hsettings.exists_isNamed)
    obtain ⟨hall, ⟨values, hfill⟩, honce⟩ := (isSettings_iff h).mp hsettings
    rw [← Config.map_values_fromMembers hall, Option.map_eq_some_iff] at hfill
    obtain ⟨c, hc, -⟩ := hfill
    exact ⟨c, ofSyntax_object_eq_some.mpr
      ⟨named, h, hall, honce, (Config.fromMembers_eq_some.mp hc).2⟩⟩

theorem memberNames_perm {members' : List (Text × JsonSyntax)} (h : members'.Perm members) :
    (memberNames members').Perm (memberNames members) :=
  h.map _

/-- The order of the members does not count. -/
theorem isSettings_perm {members' : List (Text × JsonSyntax)} (h : members'.Perm members) :
    IsSettings members' ↔ IsSettings members := by
  have hmem (m : Text × JsonSyntax) : m ∈ members' ↔ m ∈ members := h.mem_iff
  have hnodup := (memberNames_perm h).nodup_iff
  constructor
  · rintro ⟨hknown, honce⟩
    exact ⟨fun m hm => hknown m ((hmem m).mpr hm), hnodup.mp honce⟩
  · rintro ⟨hknown, honce⟩
    exact ⟨fun m hm => hknown m ((hmem m).mp hm), hnodup.mpr honce⟩

theorem isGivenBy_perm {members' : List (Text × JsonSyntax)} (h : members'.Perm members) :
    c.IsGivenBy members' ↔ c.IsGivenBy members := by
  simp only [Config.IsGivenBy, IsGiven, h.mem_iff]

theorem ofSyntax_object_perm {members' : List (Text × JsonSyntax)} (h : members'.Perm members) :
    Config.ofSyntax (.object members') = Config.ofSyntax (.object members) := by
  refine Option.ext fun c => ?_
  rw [ofSyntax_object_iff, ofSyntax_object_iff, isSettings_perm h, isGivenBy_perm h]

end

/-! ## 4. Texts of settings -/

theorem readConfig_of_writes {j : JsonSyntax} {text : Text} (h : j.Writes text) (path : Text) :
    readConfig path text = (Config.ofSyntax j).elim (.error (.configInvalid path)) .ok := by
  rw [readConfig, Config.parse?, JsonSyntax.parse?_eq_some_iff.mpr h, Option.bind_some]
  cases Config.ofSyntax j <;> rfl

/-- A text with an object gives settings just if the members are settings, each of its kind and none
repeated, and then those that they write; else the configuration is invalid.  The order of the
members does not count. -/
theorem readConfig_object_iff {members : List (Text × JsonSyntax)} {text : Text}
    (h : (JsonSyntax.object members).Writes text) (path : Text) :
    (∀ c, readConfig path text = .ok c ↔ IsSettings members ∧ c.IsGivenBy members)
      ∧ ((∃ c, readConfig path text = .ok c) ↔ IsSettings members)
      ∧ (¬ IsSettings members → readConfig path text = .error (.configInvalid path))
      ∧ ∀ members' text', members'.Perm members → (JsonSyntax.object members').Writes text'
          → readConfig path text' = readConfig path text := by
  have hread := readConfig_of_writes h path
  have hok (c : Config) :
      readConfig path text = .ok c ↔ Config.ofSyntax (.object members) = some c := by
    rw [hread]
    cases Config.ofSyntax (.object members) <;> simp
  refine ⟨fun c => (hok c).trans ofSyntax_object_iff, ?_, fun hnot => ?_, ?_⟩
  · simp only [hok, exists_ofSyntax_object_iff]
  · rw [← exists_ofSyntax_object_iff, not_exists] at hnot
    rw [hread, Option.eq_none_iff_forall_ne_some.mpr hnot, Option.elim_none]
  · intro members' text' hperm h'
    rw [hread, readConfig_of_writes h' path, ofSyntax_object_perm hperm]

/-- A flag, weights of which one has no known name, and a list of texts. -/
def threeMembers : List (Text × JsonSyntax) :=
  [ ("strict".toList, .bool true),
    ("healthWeights".toList,
      .object [("missing".toList, .number "7".toList), ("color".toList, .string "red".toList)]),
    ("ignore".toList, .array [.string "A".toList, .string "B".toList]) ]

def threeSettings : Config :=
  { Config.default with
    strict := some true
    healthWeights := some { defaultWeights with missing := 7 }
    ignore := ["A".toList, "B".toList] }

/-- The three settings are read in their order and in the reverse one, and not with the flag
twice. -/
theorem readConfig_object_iff_strict :
    let path := "<inline>".toList
    let weights := "\"healthWeights\": \x7b\"missing\": 7, \"color\": \"red\"\x7d".toList
    let text := "\x7b \"strict\": true, ".toList ++ weights
      ++ ", \"ignore\": [\"A\", \"B\"] \x7d".toList
    let text' := "\x7b \"ignore\": [\"A\", \"B\"], ".toList ++ weights
      ++ ", \"strict\": true \x7d".toList
    let twice := "\x7b \"strict\": true, \"strict\": true \x7d".toList
    ((JsonSyntax.object threeMembers).Writes text
        ∧ (JsonSyntax.object threeMembers.reverse).Writes text'
        ∧ (JsonSyntax.object [("strict".toList, .bool true), ("strict".toList, .bool true)]).Writes
            twice)
      ∧ (readConfig path text = .ok threeSettings ∧ readConfig path text' = .ok threeSettings
        ∧ readConfig path twice = .error (.configInvalid path))
      ∧ IsSettings threeMembers ∧ threeSettings.IsGivenBy threeMembers := by
  intro path weights text text' twice
  have hwrites : (JsonSyntax.object threeMembers).Writes text :=
    JsonSyntax.parse?_eq_some_iff.mp rfl
  have hwrites' : (JsonSyntax.object threeMembers.reverse).Writes text' :=
    JsonSyntax.parse?_eq_some_iff.mp rfl
  have htwice : (JsonSyntax.object
      [("strict".toList, .bool true), ("strict".toList, .bool true)]).Writes twice :=
    JsonSyntax.parse?_eq_some_iff.mp rfl
  have hread : readConfig path text = .ok threeSettings :=
    (readConfig_of_writes hwrites path).trans rfl
  obtain ⟨hok, -, -, hperm⟩ := readConfig_object_iff hwrites path
  obtain ⟨-, -, hinvalid, -⟩ := readConfig_object_iff htwice path
  have hread' := hperm threeMembers.reverse text' (List.reverse_perm _) hwrites'
  have hrepeated : readConfig path twice = .error (.configInvalid path) :=
    hinvalid fun h => absurd h.once (by decide)
  exact ⟨⟨hwrites, hwrites', htwice⟩, ⟨hread, hread'.trans hread, hrepeated⟩, (hok _).mp hread⟩

end EnvAudit
