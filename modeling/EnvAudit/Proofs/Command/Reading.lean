import EnvAudit.Proofs.Command.Outcome

/-!
# Command lines with one more switch

A command line is read from left to right.  `ReadsOne` says what one step takes and what it sets,
`ReadsAll` how steps make up a reading, and `readArguments_eq_ok` that these are the readings that
make sense.  A switch that stands between two steps changes nothing but its own setting:
`ofArguments_insert` takes it out of a command line, and `exists_ofArguments_insert` says where one
may be put in.
-/

namespace EnvAudit

/-! ## 1. Steps of the reading -/

/-- One argument is read, or an option together with the argument that is its value. -/
inductive ReadsOne : Given → List Text → Given → List Text → Prop
  | plain {g g' : Given} {a : Text} {rest : List Text} (hform : argumentForm a = .plain)
      (hhelp : ¬ (g.level = .top ∧ a = "help".toList)) (hset : g.setPlain a = some g') :
      ReadsOne g (a :: rest) g' rest
  | letters {g g' : Given} {a names : Text} {rest : List Text}
      (hform : argumentForm a = .letters names) (hread : readLetters g names = .ok g') :
      ReadsOne g (a :: rest) g' rest
  | joined {g g' : Given} {a name value : Text} {rest : List Text}
      (hform : argumentForm a = .long name (some value)) (hread : readValue g name value = .ok g') :
      ReadsOne g (a :: rest) g' rest
  | switch {g g' : Given} {a name : Text} {rest : List Text} {switch : Switch}
      (hform : argumentForm a = .long name none)
      (hname : named? (switches g.level) name = some switch)
      (hread : readSwitch g switch = .ok g') : ReadsOne g (a :: rest) g' rest
  | value {g g' : Given} {a name value : Text} {rest : List Text}
      (hform : argumentForm a = .long name none) (hname : named? (switches g.level) name = none)
      (hplain : isPlain value) (hread : readValue g name value = .ok g') :
      ReadsOne g (a :: value :: rest) g' rest

/-- Arguments are read step by step, up to their end or to the end of the options. -/
inductive ReadsAll : Given → List Text → Given → Prop
  | nil {g : Given} : ReadsAll g [] g
  | endOfOptions {g r : Given} {a : Text} {rest : List Text}
      (hform : argumentForm a = .endOfOptions) (hread : rest.foldlM readPlain g = .ok r) :
      ReadsAll g (a :: rest) r
  | step {g g' r : Given} {arguments rest : List Text} (hone : ReadsOne g arguments g' rest)
      (hall : ReadsAll g' rest r) : ReadsAll g arguments r

theorem orUsageError_eq_ok {α : Type} {x : Option α} {a : α} :
    orUsageError x = .ok a ↔ x = some a := by
  cases x with
  | none => simp [orUsageError]
  | some b => simp [orUsageError]

theorem ReadsOne.readArguments_eq {g g' : Given} {arguments rest : List Text}
    (h : ReadsOne g arguments g' rest) : readArguments g arguments = readArguments g' rest := by
  cases h with
  | plain hform hhelp hset =>
    rw [readArguments, hform]
    simp only [if_neg hhelp, hset]
    rfl
  | letters hform hread =>
    rw [readArguments, hform]
    simp only [hread]
    rfl
  | joined hform hread =>
    rw [readArguments, hform]
    simp only [hread]
    rfl
  | switch hform hname hread =>
    rw [readArguments, hform]
    simp only [hname, hread]
    rfl
  | value hform hname hplain hread =>
    rw [readArguments, hform]
    simp only [hname, if_pos hplain, hread]
    rfl

/-- The readings that make sense are those by steps. -/
theorem readArguments_eq_ok {g r : Given} {arguments : List Text} :
    readArguments g arguments = .ok r ↔ ReadsAll g arguments r := by
  constructor
  · intro h
    fun_induction readArguments g arguments with
    | case1 g => cases h; exact .nil
    | case2 => cases h
    | case3 g a rest hform hhelp ih =>
      rcases exists_of_bind_eq_ok h with ⟨g', hset, h⟩
      exact .step (.plain hform hhelp (orUsageError_eq_ok.mp hset)) (ih g' h)
    | case4 g a rest hform => exact .endOfOptions hform h
    | case5 g a rest names hform ih =>
      rcases exists_of_bind_eq_ok h with ⟨g', hread, h⟩
      exact .step (.letters hform hread) (ih g' h)
    | case6 g a rest name value hform ih =>
      rcases exists_of_bind_eq_ok h with ⟨g', hread, h⟩
      exact .step (.joined hform hread) (ih g' h)
    | case7 g a name hform switch rest hname ih =>
      rcases exists_of_bind_eq_ok h with ⟨g', hread, h⟩
      exact .step (.switch hform hname hread) (ih g' h)
    | case8 => cases h
    | case9 g a name hform value rest hname hplain ih =>
      rcases exists_of_bind_eq_ok h with ⟨g', hread, h⟩
      exact .step (.value hform hname hplain hread) (ih g' h)
    | case10 => cases h
  · intro h
    induction h with
    | nil => rfl
    | endOfOptions hform hread => rw [readArguments, hform]; exact hread
    | step hone _ ih => rw [hone.readArguments_eq, ih]

/-! ## 2. Switches that say how a report is given -/

/-- The switches about the form of a report and about its verdict. -/
inductive ReportFlag
  | json
  | strict
deriving DecidableEq

namespace ReportFlag

def name : ReportFlag → Text
  | .json => "json".toList
  | .strict => "strict".toList

/-- The switch as it is written on a command line. -/
def argument (f : ReportFlag) : Text := '-' :: '-' :: f.name

def switch : ReportFlag → Switch
  | .json => .json
  | .strict => .strict

def isOn : ReportFlag → SharedFlags → Bool
  | .json, shared => shared.json
  | .strict, shared => shared.strict

def turnOn : ReportFlag → SharedFlags → SharedFlags
  | .json, shared => { shared with json := true }
  | .strict, shared => { shared with strict := true }

end ReportFlag

/-- The options that both commands take. -/
def Command.shared : Command → SharedFlags
  | .compare shared => shared
  | .scan shared _ => shared

/-- A command with one more switch. -/
def Command.adding (f : ReportFlag) : Command → Command
  | .compare shared => .compare (f.turnOn shared)
  | .scan shared own => .scan (f.turnOn shared) own

def Invocation.adding (f : ReportFlag) (i : Invocation) : Invocation :=
  { i with command := i.command.adding f }

namespace Given

def adding (f : ReportFlag) (g : Given) : Given := { g with shared := f.turnOn g.shared }

/-- A command is named, and the switch has not been turned on for it. -/
structure Lacks (f : ReportFlag) (g : Given) : Prop where
  level_ne : g.level ≠ .top
  isOn_eq : f.isOn g.shared = false

/-- What is set is neither the command nor the switch. -/
structure Keeps (f : ReportFlag) (g g' : Given) : Prop where
  level_eq : g'.level = g.level
  isOn_eq : f.isOn g'.shared = f.isOn g.shared

/-- The command stays, and so does the switch if it is on. -/
structure Grows (f : ReportFlag) (g g' : Given) : Prop where
  level_eq : g'.level = g.level
  isOn_of_isOn : f.isOn g.shared → f.isOn g'.shared

variable {f : ReportFlag} {g g' r : Given}

theorem Keeps.lacks (h : g.Keeps f g') (hlacks : g.Lacks f) : g'.Lacks f :=
  ⟨h.level_eq ▸ hlacks.level_ne, h.isOn_eq.trans hlacks.isOn_eq⟩

theorem Keeps.grows (h : g.Keeps f g') : g.Grows f g' :=
  ⟨h.level_eq, fun hon => h.isOn_eq.trans hon⟩

theorem Grows.trans {g'' : Given} (h : g.Grows f g') (h' : g'.Grows f g'') : g.Grows f g'' :=
  ⟨h'.level_eq.trans h.level_eq, fun hon => h'.isOn_of_isOn (h.isOn_of_isOn hon)⟩

theorem Grows.lacks_of_lacks (h : g.Grows f g') (hlacks : g'.Lacks f) : g.Lacks f := by
  refine ⟨h.level_eq ▸ hlacks.level_ne, Bool.eq_false_iff.mpr fun hon => ?_⟩
  exact Bool.eq_false_iff.mp hlacks.isOn_eq (h.isOn_of_isOn hon)

/-! ## 3. What is set with one more switch -/

theorem setValue_adding (option : ValueOption) (value : Text) :
    (g.adding f).setValue option value = (g.setValue option value).map (adding f) := by
  cases option with
  | config | schema => simp only [setValue, adding, Option.map_map, Function.comp_def]
  | env | expected =>
    cases f <;>
      simp only [setValue, adding, ReportFlag.turnOn, Option.map_map, Function.comp_def]
  | ignore | ignoreRegex => cases f <;> rfl
  | exclude => rfl
  | minSeverity => simp only [setValue, adding, Option.map_map, Option.map_bind, Function.comp_def]

theorem keeps_setValue {option : ValueOption} {value : Text}
    (hset : g.setValue option value = some g') : g.Keeps f g' := by
  cases option with
  | config | env | expected | schema =>
    rcases Option.map_eq_some_iff.mp hset with ⟨v, -, rfl⟩
    cases f <;> exact ⟨rfl, rfl⟩
  | ignore | ignoreRegex | exclude =>
    cases hset
    cases f <;> exact ⟨rfl, rfl⟩
  | minSeverity =>
    rcases Option.bind_eq_some_iff.mp hset with ⟨severity, -, hset⟩
    rcases Option.map_eq_some_iff.mp hset with ⟨v, -, rfl⟩
    exact ⟨rfl, rfl⟩

theorem setPlain_adding (h : g.level ≠ .top) (a : Text) :
    (g.adding f).setPlain a = (g.setPlain a).map (adding f) := by
  cases hlevel : g.level with
  | top => exact absurd hlevel h
  | compare => simp only [setPlain, adding, hlevel, Option.map_none]
  | scan =>
    simp only [setPlain, setDirectory, adding, hlevel, Option.map_map, Function.comp_def]

theorem keeps_setPlain (h : g.level ≠ .top) {a : Text} (hset : g.setPlain a = some g') :
    g.Keeps f g' := by
  unfold setPlain at hset
  cases hlevel : g.level with
  | top => exact absurd hlevel h
  | compare => rw [hlevel] at hset; cases hset
  | scan =>
    rw [hlevel] at hset
    rcases Option.map_eq_some_iff.mp hset with ⟨v, -, rfl⟩
    exact ⟨rfl, rfl⟩

/-- The switch itself may be turned on once. -/
theorem turnOn_switch (f : ReportFlag) (g : Given) :
    g.turnOn f.switch = if f.isOn g.shared then none else some (g.adding f) := by
  cases f with
  | json =>
    rw [ReportFlag.switch, turnOn, onOnce, ReportFlag.isOn]
    split <;> rfl
  | strict =>
    rw [ReportFlag.switch, turnOn, onOnce, ReportFlag.isOn]
    split <;> rfl

theorem isOn_adding (f : ReportFlag) (g : Given) : f.isOn (g.adding f).shared = true := by
  cases f <;> rfl

theorem turnOn_adding {switch : Switch} (hother : switch ≠ f.switch) :
    (g.adding f).turnOn switch = (g.turnOn switch).map (adding f) := by
  cases switch with
  | verbose | help | version => rfl
  | checkValues | json | strict =>
    cases f <;> first
      | exact absurd rfl hother
      | simp only [turnOn, adding, ReportFlag.turnOn, Option.map_map, Function.comp_def]

theorem keeps_turnOn {switch : Switch} (hother : switch ≠ f.switch)
    (hset : g.turnOn switch = some g') : g.Keeps f g' := by
  cases switch with
  | verbose | help | version => cases hset; exact ⟨rfl, rfl⟩
  | checkValues | json | strict =>
    rcases Option.map_eq_some_iff.mp hset with ⟨v, -, rfl⟩
    cases f <;> first
      | exact absurd rfl hother
      | exact ⟨rfl, rfl⟩

theorem grows_turnOn {switch : Switch} (hset : g.turnOn switch = some g') : g.Grows f g' := by
  by_cases hswitch : switch = f.switch
  · rw [hswitch, turnOn_switch] at hset
    split at hset
    · cases hset
    · cases hset
      exact ⟨rfl, fun _ => isOn_adding f g⟩
  · exact (keeps_turnOn hswitch hset).grows

end Given

/-! ## 4. What is read with one more switch -/

section

variable {f : ReportFlag} {g g' r : Given} {arguments rest : List Text}

/-- The second reading makes sense if the first does and the switch is lacking behind it, and then
it leads to the same with the switch. -/
def FollowsWith (f : ReportFlag) (x y : Reading Given) : Prop :=
  ∀ r, y = .ok r ↔ ∃ g, x = .ok g ∧ g.Lacks f ∧ r = g.adding f

theorem followsWith_of_map {x y : Option Given} (hmap : y = x.map (Given.adding f))
    (hlacks : ∀ g, x = some g → g.Lacks f) :
    FollowsWith f (orUsageError x) (orUsageError y) := by
  intro r
  simp only [orUsageError_eq_ok, hmap, Option.map_eq_some_iff]
  constructor
  · intro h
    rcases h with ⟨g, hg, rfl⟩
    exact ⟨g, hg, hlacks g hg, rfl⟩
  · intro h
    rcases h with ⟨g, hg, -, rfl⟩
    exact ⟨g, hg, rfl⟩

theorem followsWith_setPlain (h : g.Lacks f) (a : Text) :
    FollowsWith f (orUsageError (g.setPlain a)) (orUsageError ((g.adding f).setPlain a)) :=
  followsWith_of_map (Given.setPlain_adding h.level_ne a) fun _ hset =>
    (Given.keeps_setPlain h.level_ne hset).lacks h

theorem followsWith_readPlain (h : g.Lacks f) (a : Text) :
    FollowsWith f (readPlain g a) (readPlain (g.adding f) a) := by
  unfold readPlain
  rw [if_neg h.level_ne, if_neg (show (g.adding f).level ≠ .top from h.level_ne)]
  exact followsWith_setPlain h a

theorem followsWith_error (f : ReportFlag) (e e' : Request) :
    FollowsWith f (.error e) (.error e') := by
  intro r
  simp

theorem followsWith_readValue (h : g.Lacks f) (name value : Text) :
    FollowsWith f (readValue g name value) (readValue (g.adding f) name value) := by
  unfold readValue
  rw [show (g.adding f).level = g.level from rfl]
  cases named? (valueOptions g.level) name with
  | none => exact followsWith_error f _ _
  | some option =>
    exact followsWith_of_map (Given.setValue_adding option value) fun _ hset =>
      (Given.keeps_setValue hset).lacks h

theorem followsWith_turnOn (h : g.Lacks f) (switch : Switch) :
    FollowsWith f (orUsageError (g.turnOn switch)) (orUsageError ((g.adding f).turnOn switch)) := by
  by_cases hswitch : switch = f.switch
  · -- the switch is on already on one side, and on the other side it is no longer lacking
    intro r
    rw [hswitch, Given.turnOn_switch, Given.turnOn_switch, if_pos (Given.isOn_adding f g),
      h.isOn_eq]
    refine iff_of_false nofun ?_
    rintro ⟨g', hset, hlacks, -⟩
    cases hset
    exact Bool.eq_false_iff.mp hlacks.isOn_eq (Given.isOn_adding f g)
  · exact followsWith_of_map (Given.turnOn_adding hswitch) fun _ hset =>
      (Given.keeps_turnOn hswitch hset).lacks h

theorem followsWith_readSwitch (h : g.Lacks f) (switch : Switch) :
    FollowsWith f (readSwitch g switch) (readSwitch (g.adding f) switch) := by
  unfold readSwitch
  cases switch with
  | help | version => exact followsWith_error f _ _
  | verbose | checkValues | json | strict => exact followsWith_turnOn h _

theorem turnOn_of_readSwitch {switch : Switch} (h : readSwitch g switch = .ok r) :
    g.turnOn switch = some r := by
  cases switch with
  | help | version => cases h
  | verbose | checkValues | json | strict => exact orUsageError_eq_ok.mp h

/-- A letter asks for messages, for help or for the version. -/
theorem mem_letterSwitches {level : Level} {c : Char} {switch : Switch}
    (h : (letterSwitches level).lookup c = some switch) :
    switch = .verbose ∨ switch = .help ∨ switch = .version := by
  rcases List.lookup_eq_some_iff.mp h with ⟨before, after, hsplit, -⟩
  have hmem : (c, switch) ∈ letterSwitches level := by simp [hsplit]
  cases level <;> simp [letterSwitches] at hmem <;> grind

/-- Letters make sense if each of them asks for more messages, and then they set nothing. -/
theorem readLetters_eq_ok {names : Text} :
    readLetters g names = .ok r
      ↔ (∀ c ∈ names, (letterSwitches g.level).lookup c = some .verbose) ∧ r = g := by
  induction names with
  | nil => simp [readLetters, eq_comm]
  | cons c names ih =>
    rw [readLetters, List.forall_mem_cons]
    cases hc : (letterSwitches g.level).lookup c with
    | none => simp [orUsageError, bind, Except.bind]
    | some switch =>
      rcases mem_letterSwitches hc with rfl | rfl | rfl
      · change readLetters g names = .ok r ↔ _
        simpa using ih
      · simp [orUsageError, readSwitch, bind, Except.bind]
      · simp [orUsageError, readSwitch, bind, Except.bind]

theorem followsWith_readLetters (h : g.Lacks f) (names : Text) :
    FollowsWith f (readLetters g names) (readLetters (g.adding f) names) := by
  intro r
  simp only [readLetters_eq_ok]
  constructor
  · intro hr
    rcases hr with ⟨hletters, rfl⟩
    exact ⟨g, ⟨hletters, rfl⟩, h, rfl⟩
  · intro hr
    rcases hr with ⟨_, ⟨hletters, rfl⟩, -, rfl⟩
    exact ⟨hletters, rfl⟩

/-- A step behind the command with one more switch. -/
theorem readsOne_adding_iff (h : g.Lacks f) :
    ReadsOne (g.adding f) arguments r rest
      ↔ ∃ g', ReadsOne g arguments g' rest ∧ g'.Lacks f ∧ r = g'.adding f := by
  constructor
  · intro hone
    cases hone with
    | plain hform hhelp hset =>
      rcases (followsWith_setPlain h _ r).mp (orUsageError_eq_ok.mpr hset) with ⟨g', hset, hg⟩
      exact ⟨g', .plain hform hhelp (orUsageError_eq_ok.mp hset), hg⟩
    | letters hform hread =>
      rcases (followsWith_readLetters h _ r).mp hread with ⟨g', hread, hg⟩
      exact ⟨g', .letters hform hread, hg⟩
    | joined hform hread =>
      rcases (followsWith_readValue h _ _ r).mp hread with ⟨g', hread, hg⟩
      exact ⟨g', .joined hform hread, hg⟩
    | switch hform hname hread =>
      rcases (followsWith_readSwitch h _ r).mp hread with ⟨g', hread, hg⟩
      exact ⟨g', .switch hform hname hread, hg⟩
    | value hform hname hplain hread =>
      rcases (followsWith_readValue h _ _ r).mp hread with ⟨g', hread, hg⟩
      exact ⟨g', .value hform hname hplain hread, hg⟩
  · intro hone
    rcases hone with ⟨g', hone, hg⟩
    cases hone with
    | plain hform hhelp hset =>
      have hset := (followsWith_setPlain h _ r).mpr ⟨g', orUsageError_eq_ok.mpr hset, hg⟩
      exact .plain hform hhelp (orUsageError_eq_ok.mp hset)
    | letters hform hread =>
      exact .letters hform ((followsWith_readLetters h _ r).mpr ⟨g', hread, hg⟩)
    | joined hform hread =>
      exact .joined hform ((followsWith_readValue h _ _ r).mpr ⟨g', hread, hg⟩)
    | switch hform hname hread =>
      exact .switch hform hname ((followsWith_readSwitch h _ r).mpr ⟨g', hread, hg⟩)
    | value hform hname hplain hread =>
      exact .value hform hname hplain ((followsWith_readValue h _ _ r).mpr ⟨g', hread, hg⟩)

theorem setValue_of_readValue {name value : Text} (h : readValue g name value = .ok r) :
    ∃ option, g.setValue option value = some r := by
  rcases exists_of_bind_eq_ok h with ⟨option, -, hset⟩
  exact ⟨option, orUsageError_eq_ok.mp hset⟩

theorem ReadsOne.grows (h : ReadsOne g arguments g' rest) (hlevel : g.level ≠ .top) :
    g.Grows f g' := by
  cases h with
  | plain _ _ hset => exact (Given.keeps_setPlain hlevel hset).grows
  | letters _ hread =>
    rcases readLetters_eq_ok.mp hread with ⟨-, rfl⟩
    exact ⟨rfl, id⟩
  | joined _ hread | value _ _ _ hread =>
    rcases setValue_of_readValue hread with ⟨option, hset⟩
    exact (Given.keeps_setValue hset).grows
  | switch _ _ hread => exact Given.grows_turnOn (turnOn_of_readSwitch hread)

/-! ## 5. Whole readings -/

theorem setPlain_of_readPlain {a : Text} (hlevel : g.level ≠ .top) (h : readPlain g a = .ok r) :
    g.setPlain a = some r := by
  rw [readPlain, if_neg hlevel] at h
  exact orUsageError_eq_ok.mp h

theorem followsWith_foldlM (h : g.Lacks f) (rest : List Text) :
    FollowsWith f (rest.foldlM readPlain g) (rest.foldlM readPlain (g.adding f)) := by
  induction rest generalizing g with
  | nil =>
    intro r
    simp [List.foldlM_nil, pure, Except.pure, h, eq_comm]
  | cons a rest ih =>
    intro r
    rw [List.foldlM_cons, List.foldlM_cons]
    constructor
    · intro hr
      rcases exists_of_bind_eq_ok hr with ⟨_, hwith, hr⟩
      rcases (followsWith_readPlain h a _).mp hwith with ⟨g', hplain, hlacks, rfl⟩
      rcases (ih hlacks r).mp hr with ⟨g'', hread, hg⟩
      exact ⟨g'', by rw [hplain]; exact hread, hg⟩
    · intro hr
      rcases hr with ⟨g'', hr, hg⟩
      rcases exists_of_bind_eq_ok hr with ⟨g', hplain, hr⟩
      have hset := setPlain_of_readPlain h.level_ne hplain
      have hlacks := (Given.keeps_setPlain h.level_ne hset).lacks h
      rw [(followsWith_readPlain h a _).mpr ⟨g', hplain, hlacks, rfl⟩]
      exact (ih hlacks r).mpr ⟨g'', hr, hg⟩

theorem grows_foldlM (hlevel : g.level ≠ .top) {rest : List Text}
    (h : rest.foldlM readPlain g = .ok r) : g.Grows f r := by
  induction rest generalizing g with
  | nil =>
    cases h
    exact ⟨rfl, id⟩
  | cons a rest ih =>
    rcases exists_of_bind_eq_ok h with ⟨g', hplain, hrest⟩
    have hkeeps := Given.keeps_setPlain (f := f) hlevel (setPlain_of_readPlain hlevel hplain)
    have hgrows := ih (hkeeps.level_eq ▸ hlevel) hrest
    exact hkeeps.grows.trans hgrows

theorem ReadsAll.grows (h : ReadsAll g arguments r) (hlevel : g.level ≠ .top) : g.Grows f r := by
  induction h with
  | nil => exact ⟨rfl, id⟩
  | endOfOptions _ hread => exact grows_foldlM hlevel hread
  | step hone _ ih =>
    have hgrows := hone.grows (f := f) hlevel
    exact hgrows.trans (ih (hgrows.level_eq ▸ hlevel))

/-- **A reading behind the command with one more switch** is the reading without it, provided that
this one does not turn the switch on. -/
theorem readsAll_adding_iff (h : g.Lacks f) :
    ReadsAll (g.adding f) arguments r
      ↔ ∃ g', ReadsAll g arguments g' ∧ g'.Lacks f ∧ r = g'.adding f := by
  constructor
  · intro hall
    generalize hstart : g.adding f = start at hall
    induction hall generalizing g with
    | nil => exact ⟨g, .nil, h, hstart.symm⟩
    | endOfOptions hform hread =>
      rcases (followsWith_foldlM h _ _).mp (hstart ▸ hread) with ⟨g', hread, hg⟩
      exact ⟨g', .endOfOptions hform hread, hg⟩
    | step hone _ ih =>
      rcases (readsOne_adding_iff h).mp (hstart ▸ hone) with ⟨g', hone, hlacks, hnext⟩
      rcases ih hlacks hnext.symm with ⟨r', hall, hr⟩
      exact ⟨r', .step hone hall, hr⟩
  · intro hall
    rcases hall with ⟨g', hall, hlacks, rfl⟩
    induction hall with
    | nil => exact .nil
    | endOfOptions hform hread =>
      exact .endOfOptions hform ((followsWith_foldlM h _ _).mpr ⟨_, hread, hlacks, rfl⟩)
    | step hone hall ih =>
      -- what is lacking at the end was lacking all along
      have hlevel := (hone.grows (f := f) h.level_ne).level_eq
      have hmiddle := (hall.grows (f := f) (hlevel ▸ h.level_ne)).lacks_of_lacks hlacks
      exact .step ((readsOne_adding_iff h).mpr ⟨_, hone, hmiddle, rfl⟩) (ih hmiddle hlacks)

/-! ## 6. Places for a switch -/

/-- The arguments are read to an end of a step, from which the reading goes on. -/
def ReadsFront (g : Given) (front : List Text) (g' : Given) : Prop :=
  ∀ rest r, ReadsAll g' rest r → ReadsAll g (front ++ rest) r

theorem readsFront_nil (g : Given) : ReadsFront g [] g := fun _ _ h => h

theorem argumentForm_eq_endOfOptions {a : Text} (h : argumentForm a = .endOfOptions) :
    a = "--".toList := by
  unfold argumentForm at h
  split at h
  · rfl
  · split at h <;> cases h
  · cases h
  · cases h

theorem ne_endOfOptions {a : Text} (h : argumentForm a ≠ .endOfOptions) : a ≠ "--".toList := by
  rintro rfl
  exact h rfl

/-- A step takes one argument, or two of which the second is a value, whatever follows. -/
theorem ReadsOne.exists_taken (h : ReadsOne g arguments g' rest) :
    ∃ a values, arguments = a :: (values ++ rest) ∧ a ≠ "--".toList
      ∧ (values = [] ∨ ∃ value, isPlain value ∧ values = [value])
      ∧ ∀ t, ReadsOne g (a :: (values ++ t)) g' t := by
  cases h with
  | plain hform hhelp hset =>
    exact ⟨_, [], rfl, ne_endOfOptions (by simp [hform]), Or.inl rfl,
      fun _ => .plain hform hhelp hset⟩
  | letters hform hread =>
    exact ⟨_, [], rfl, ne_endOfOptions (by simp [hform]), Or.inl rfl,
      fun _ => .letters hform hread⟩
  | joined hform hread =>
    exact ⟨_, [], rfl, ne_endOfOptions (by simp [hform]), Or.inl rfl,
      fun _ => .joined hform hread⟩
  | switch hform hname hread =>
    exact ⟨_, [], rfl, ne_endOfOptions (by simp [hform]), Or.inl rfl,
      fun _ => .switch hform hname hread⟩
  | value hform hname hplain hread =>
    exact ⟨_, [_], rfl, ne_endOfOptions (by simp [hform]), Or.inr ⟨_, hplain, rfl⟩,
      fun _ => .value hform hname hplain hread⟩

/-- Up to an argument that is no value and stands before the end of the options, the reading goes
by whole steps. -/
theorem ReadsAll.exists_front {before after : List Text} {a : Text}
    (h : ReadsAll g (before ++ a :: after) r) (hbefore : "--".toList ∉ before)
    (ha : ¬ isPlain a) : ∃ g', ReadsFront g before g' ∧ ReadsAll g' (a :: after) r := by
  generalize harguments : before ++ a :: after = arguments at h
  induction h generalizing before with
  | nil => exact absurd harguments (List.append_ne_nil_of_right_ne_nil _ (List.cons_ne_nil _ _))
  | endOfOptions hform hread =>
    cases before with
    | nil =>
      cases harguments
      exact ⟨_, readsFront_nil _, .endOfOptions hform hread⟩
    | cons b before =>
      rcases List.cons.inj harguments with ⟨rfl, -⟩
      rw [argumentForm_eq_endOfOptions hform] at hbefore
      exact absurd List.mem_cons_self hbefore
  | step hone hall ih =>
    cases before with
    | nil =>
      cases harguments
      exact ⟨_, readsFront_nil _, .step hone hall⟩
    | cons b before =>
      rcases hone.exists_taken with ⟨b', values, htaken, -, hvalues, hstep⟩
      rcases List.cons.inj (harguments.trans htaken) with ⟨rfl, hrest⟩
      rw [List.mem_cons, not_or] at hbefore
      rcases hvalues with rfl | ⟨value, hplain, rfl⟩
      · rcases ih hbefore.2 hrest with ⟨g', hfront, hback⟩
        exact ⟨g', fun t r ht => .step (hstep _) (hfront t r ht), hback⟩
      · cases before with
        | nil =>
          cases hrest
          exact absurd hplain ha
        | cons c before =>
          rcases List.cons.inj hrest with ⟨rfl, hlater⟩
          rw [List.mem_cons, not_or] at hbefore
          rcases ih hbefore.2.2 hlater with ⟨g', hfront, hback⟩
          exact ⟨g', fun t r ht => .step (hstep _) (hfront t r ht), hback⟩

theorem commandLevel?_ne_top {name : Text} {level : Level} (h : commandLevel? name = some level) :
    level ≠ .top := by
  rcases Option.map_eq_some_iff.mp h with ⟨known, hfind, rfl⟩
  have hmem := List.mem_of_find?_eq_some hfind
  simp only [List.mem_cons, List.not_mem_nil, or_false] at hmem
  rcases hmem with rfl | rfl <;> decide

/-- Before the command, a step leads to the command or stays before it. -/
theorem ReadsOne.level_of_top (h : ReadsOne g arguments g' rest) (hg : g.level = .top) :
    g'.level = .top ∨ ∃ level, level ≠ .top ∧ g' = .start level g.config := by
  cases h with
  | plain _ _ hset =>
    simp only [Given.setPlain, hg] at hset
    rcases Option.map_eq_some_iff.mp hset with ⟨level, hlevel, rfl⟩
    exact Or.inr ⟨level, commandLevel?_ne_top hlevel, rfl⟩
  | letters _ hread =>
    rcases readLetters_eq_ok.mp hread with ⟨-, rfl⟩
    exact Or.inl hg
  | joined _ hread | value _ _ _ hread =>
    rcases setValue_of_readValue hread with ⟨option, hset⟩
    exact Or.inl ((Given.keeps_setValue (f := .json) hset).level_eq.trans hg)
  | switch _ _ hread =>
    exact Or.inl ((Given.grows_turnOn (f := .json) (turnOn_of_readSwitch hread)).level_eq.trans hg)

/-- A reading that names a command goes by whole steps up to it. -/
theorem ReadsAll.exists_command (h : ReadsAll g arguments r) (hg : g.level = .top)
    (hr : r.level ≠ .top) :
    ∃ before level config after, arguments = before ++ after ∧ "--".toList ∉ before ∧ level ≠ .top
      ∧ ReadsFront g before (.start level config) ∧ ReadsAll (.start level config) after r := by
  induction h with
  | nil => exact absurd hg hr
  | @endOfOptions g r a rest hform hread =>
    cases rest with
    | nil =>
      cases hread
      exact absurd hg hr
    | cons a rest =>
      rcases exists_of_bind_eq_ok hread with ⟨g', hplain, -⟩
      rw [readPlain, if_pos hg] at hplain
      cases hplain
  | @step g g' r arguments rest hone hall ih =>
    rcases hone.exists_taken with ⟨a, values, rfl, ha, hvalues, hstep⟩
    have htaken : "--".toList ∉ a :: values := by
      rcases hvalues with rfl | ⟨value, hplain, rfl⟩
      · exact List.not_mem_cons_of_ne_of_not_mem ha.symm List.not_mem_nil
      · have hvalue : value ≠ "--".toList := by
          rintro rfl
          exact absurd hplain (by decide)
        exact List.not_mem_cons_of_ne_of_not_mem ha.symm
          (List.not_mem_cons_of_ne_of_not_mem hvalue.symm List.not_mem_nil)
    rcases hone.level_of_top hg with htop | ⟨level, hlevel, rfl⟩
    · rcases ih htop hr with ⟨before, level, config, after, rfl, hbefore, hlevel, hfront, hback⟩
      refine ⟨a :: values ++ before, level, config, after, by simp, ?_, hlevel, ?_, hback⟩
      · rw [List.mem_append, not_or]
        exact ⟨htaken, hbefore⟩
      · intro t r ht
        have hall := ReadsAll.step (hstep _) (hfront t r ht)
        simpa using hall
    · exact ⟨a :: values, level, g.config, rest, rfl, htaken, hlevel,
        fun t r ht => .step (hstep t) ht, hall⟩

/-! ## 7. Command lines with one more switch -/

theorem argumentForm_argument (f : ReportFlag) : argumentForm f.argument = .long f.name none := by
  cases f <;> rfl

theorem named?_switches (f : ReportFlag) {level : Level} (h : level ≠ .top) :
    named? (switches level) f.name = some f.switch := by
  cases level with
  | top => exact absurd rfl h
  | compare | scan => cases f <;> rfl

/-- Before the command, the switch makes no sense. -/
theorem readsOne_argument_level (f : ReportFlag) {after : List Text}
    (h : ReadsOne g (f.argument :: after) g' rest) : g.level ≠ .top := by
  intro hg
  have hform := argumentForm_argument f
  cases h with
  | plain hform' => rw [hform] at hform'; cases hform'
  | letters hform' => rw [hform] at hform'; cases hform'
  | joined hform' => rw [hform] at hform'; cases hform'
  | switch hform' hname =>
    rw [hform] at hform'
    cases hform'
    rw [hg] at hname
    cases f <;> cases hname
  | value hform' _ _ hread =>
    rw [hform] at hform'
    cases hform'
    rcases exists_of_bind_eq_ok hread with ⟨option, hname, -⟩
    rw [hg] at hname
    cases f <;> cases hname

theorem readsAll_argument_iff {after : List Text} :
    ReadsAll g (f.argument :: after) r ↔ g.Lacks f ∧ ReadsAll (g.adding f) after r := by
  have hform := argumentForm_argument f
  constructor
  · intro h
    cases h with
    | endOfOptions hform' => rw [hform] at hform'; cases hform'
    | step hone hall =>
      have hlevel := readsOne_argument_level f hone
      cases hone with
      | plain hform' => rw [hform] at hform'; cases hform'
      | letters hform' => rw [hform] at hform'; cases hform'
      | joined hform' => rw [hform] at hform'; cases hform'
      | switch hform' hname hread =>
        rw [hform] at hform'
        cases hform'
        rw [named?_switches f hlevel] at hname
        cases hname
        have hset := turnOn_of_readSwitch hread
        rw [Given.turnOn_switch] at hset
        split at hset
        next => cases hset
        next hoff =>
          cases hset
          exact ⟨⟨hlevel, Bool.eq_false_iff.mpr hoff⟩, hall⟩
      | value hform' hname =>
        rw [hform] at hform'
        cases hform'
        rw [named?_switches f hlevel] at hname
        cases hname
  · intro h
    rcases h with ⟨hlacks, hall⟩
    refine .step (.switch hform (named?_switches f hlacks.level_ne) ?_) hall
    have hset : orUsageError (g.turnOn f.switch) = .ok (g.adding f) := by
      rw [Given.turnOn_switch, hlacks.isOn_eq]
      rfl
    cases f <;> exact hset

theorem invocation?_adding (f : ReportFlag) (g : Given) :
    (g.adding f).invocation? = g.invocation?.map (Invocation.adding f) := by
  unfold Given.invocation? Given.adding
  cases g.level <;> rfl

theorem Given.level_ne_of_invocation? {i : Invocation} (h : g.invocation? = some i) :
    g.level ≠ .top := by
  intro hg
  rw [Given.invocation?, hg] at h
  cases h

theorem Given.shared_of_invocation? {i : Invocation} (h : g.invocation? = some i) :
    i.command.shared = g.shared := by
  unfold Given.invocation? at h
  cases hg : g.level with
  | top => rw [hg] at h; cases h
  | compare | scan => rw [hg] at h; cases h; rfl

/-- A reading that ends early asks for no run. -/
def EndsWithoutRun {α : Type} (x : Reading α) : Prop := ∀ i, x ≠ .error (.run i)

theorem EndsWithoutRun.bind {α β : Type} {x : Reading α} {k : α → Reading β}
    (hx : EndsWithoutRun x) (hk : ∀ a, EndsWithoutRun (k a)) : EndsWithoutRun (x >>= k) := by
  cases x with
  | error e =>
    intro i h
    cases h
    exact hx i rfl
  | ok a => exact hk a

theorem endsWithoutRun_orUsageError {α : Type} (x : Option α) :
    EndsWithoutRun (orUsageError x) := by
  cases x <;> exact fun _ => nofun

theorem endsWithoutRun_readSwitch (g : Given) (switch : Switch) :
    EndsWithoutRun (readSwitch g switch) := by
  unfold readSwitch
  split
  · exact fun _ => nofun
  · exact fun _ => nofun
  · exact endsWithoutRun_orUsageError _

theorem endsWithoutRun_readLetters (g : Given) (names : Text) :
    EndsWithoutRun (readLetters g names) := by
  induction names generalizing g with
  | nil => exact fun _ => nofun
  | cons c names ih =>
    exact (endsWithoutRun_orUsageError _).bind fun switch =>
      (endsWithoutRun_readSwitch g switch).bind ih

theorem endsWithoutRun_readValue (g : Given) (name value : Text) :
    EndsWithoutRun (readValue g name value) :=
  (endsWithoutRun_orUsageError _).bind fun _ => endsWithoutRun_orUsageError _

theorem endsWithoutRun_foldlM (g : Given) (rest : List Text) :
    EndsWithoutRun (rest.foldlM readPlain g) := by
  induction rest generalizing g with
  | nil => exact fun _ => nofun
  | cons a rest ih =>
    refine EndsWithoutRun.bind ?_ ih
    unfold readPlain
    split
    · exact fun _ => nofun
    · exact endsWithoutRun_orUsageError _

theorem readHelp_ne_run (arguments : List Text) (i : Invocation) :
    readHelp arguments ≠ .run i := by
  unfold readHelp
  split
  · nofun
  · split <;> nofun
  · nofun

theorem endsWithoutRun_readArguments (g : Given) (arguments : List Text) :
    EndsWithoutRun (readArguments g arguments) := by
  fun_induction readArguments g arguments with
  | case1 => exact fun _ => nofun
  | case2 g a rest =>
    intro i h
    exact readHelp_ne_run rest i (Except.error.inj h)
  | case3 g a rest hform hhelp ih => exact (endsWithoutRun_orUsageError _).bind ih
  | case4 g a rest => exact endsWithoutRun_foldlM g rest
  | case5 g a rest names hform ih => exact (endsWithoutRun_readLetters g names).bind ih
  | case6 g a rest name value hform ih => exact (endsWithoutRun_readValue g name value).bind ih
  | case7 g a name hform switch rest hname ih =>
    exact (endsWithoutRun_readSwitch g switch).bind ih
  | case8 => exact fun _ => nofun
  | case9 g a name hform value rest hname hplain ih =>
    exact (endsWithoutRun_readValue g name value).bind ih
  | case10 => exact fun _ => nofun

/-- A command line asks for a run just if it is read to its end. -/
theorem ofArguments_eq_run {i : Invocation} :
    Request.ofArguments arguments = .run i
      ↔ ∃ r, ReadsAll (.start .top none) arguments r ∧ r.invocation? = some i := by
  have hends : EndsWithoutRun (readCommandLine arguments) :=
    (endsWithoutRun_readArguments _ arguments).bind fun _ => endsWithoutRun_orUsageError _
  have hline : Request.ofArguments arguments = .run i ↔ readCommandLine arguments = .ok i := by
    unfold Request.ofArguments
    cases hread : readCommandLine arguments with
    | ok invocation => simp
    | error request =>
      refine iff_of_false ?_ nofun
      rintro rfl
      exact hends i hread
  rw [hline, readCommandLine]
  constructor
  · intro h
    rcases exists_of_bind_eq_ok h with ⟨r, hread, hi⟩
    exact ⟨r, readArguments_eq_ok.mp hread, orUsageError_eq_ok.mp hi⟩
  · intro h
    rcases h with ⟨r, hall, hi⟩
    rw [readArguments_eq_ok.mpr hall]
    exact orUsageError_eq_ok.mpr hi

/-- **A switch before the end of the options** may be left out of a command line that makes sense:
the command line makes sense without it, and nothing but the switch is missing. -/
theorem ofArguments_insert {before after : List Text} {j : Invocation}
    (hbefore : "--".toList ∉ before)
    (h : Request.ofArguments (before ++ f.argument :: after) = .run j) :
    ∃ i, Request.ofArguments (before ++ after) = .run i ∧ f.isOn i.command.shared = false
      ∧ j = i.adding f := by
  rcases ofArguments_eq_run.mp h with ⟨r, hall, hj⟩
  rcases hall.exists_front hbefore (by cases f <;> decide) with ⟨g, hfront, hback⟩
  rcases readsAll_argument_iff.mp hback with ⟨hlacks, hwith⟩
  rcases (readsAll_adding_iff hlacks).mp hwith with ⟨r', hwithout, hlacks', rfl⟩
  rw [invocation?_adding] at hj
  rcases Option.map_eq_some_iff.mp hj with ⟨i, hi, rfl⟩
  refine ⟨i, ofArguments_eq_run.mpr ⟨r', hfront _ _ hwithout, hi⟩, ?_, rfl⟩
  rw [Given.shared_of_invocation? hi]
  exact hlacks'.isOn_eq

/-- The command takes a switch that it does not have. -/
theorem exists_ofArguments_insert {i : Invocation} (h : Request.ofArguments arguments = .run i)
    (hoff : f.isOn i.command.shared = false) :
    ∃ before after, arguments = before ++ after ∧ "--".toList ∉ before
      ∧ Request.ofArguments (before ++ f.argument :: after) = .run (i.adding f) := by
  rcases ofArguments_eq_run.mp h with ⟨r, hall, hi⟩
  have hlevel := Given.level_ne_of_invocation? hi
  rcases hall.exists_command rfl hlevel with
    ⟨before, level, config, after, harguments, hbefore, hcommand, hfront, hback⟩
  have hr : r.Lacks f := ⟨hlevel, (Given.shared_of_invocation? hi) ▸ hoff⟩
  have hstart : (Given.start level config).Lacks f := (hback.grows hcommand).lacks_of_lacks hr
  refine ⟨before, after, harguments, hbefore, ofArguments_eq_run.mpr ⟨r.adding f, ?_, ?_⟩⟩
  · exact hfront _ _ (readsAll_argument_iff.mpr
      ⟨hstart, (readsAll_adding_iff hstart).mpr ⟨r, hback, hr, rfl⟩⟩)
  · rw [invocation?_adding, hi, Option.map_some]

end

end EnvAudit
