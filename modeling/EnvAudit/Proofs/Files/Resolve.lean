import EnvAudit.Proofs.Files.Components
import EnvAudit.Proofs.Files.Entry

/-!
# Resolving a path

On a disk every path has a start, the root or the working directory, and every name a directory
around it.  A path that leads nowhere is resolved to an entry of that directory that is shown with
the same name in lower case, if it has one, and else to itself (`resolve_stays_with_name`).  Left
open are the order in which a directory lists its entries, and which names the disk itself takes for
the same.
-/

namespace EnvAudit

/-! ## 1. Places on a disk -/

/-- All that there is, with no links in it, and the names from the root to the working directory.
Names whose canonical form is one lead to the same entry: the name itself is the form where letter
case counts, and a folded one where it does not. -/
structure Disk where
  canonical : FileName → FileName
  entries : List (FileName × Tree)
  isProper : (Tree.directory entries).IsProperFor canonical
  workingDirectory : List FileName

namespace Disk

variable {d : Disk} {s : List Tree × Tree} {name : Text} {parts : List Text}

/-- Around the root is the root. -/
def rules (d : Disk) : PathRules := ⟨d.canonical, true⟩

def root (d : Disk) : List Tree × Tree := ([], .directory d.entries)

/-- Where the parts lead from the root if the first of them is the one that stands for it, and from
the working directory otherwise. -/
def place? (d : Disk) (rootPart : Text) (parts : List Text) : Option (List Tree × Tree) :=
  if parts.head? = some rootPart then d.rules.walk d.root parts.tail
  else (d.rules.descend d.root d.workingDirectory).bind fun s => d.rules.walk s parts

/-- What is at a place.  An empty path leads nowhere. -/
def find? (d : Disk) (p : Place) : Option Tree :=
  if p.path = [] then none
  else d.rules.under? (d.place? [] (Text.pieces '/' p.path)) p.below

/-- There is something at the place. -/
def Has (d : Disk) (p : Place) : Prop := (d.find? p).isSome

instance (d : Disk) (p : Place) : Decidable (d.Has p) :=
  inferInstanceAs (Decidable ((d.find? p).isSome = true))

theorem has_of_find? {p : Place} {t : Tree} (h : d.find? p = some t) : d.Has p :=
  Option.isSome_of_eq_some h

/-- The entries of the directory at a place, if there is one. -/
def entriesOf (d : Disk) (p : Place) : List (FileName × Tree) :=
  ((d.find? p).map Tree.entries).getD []

/-- The entries of the directory with the components, if there is one. -/
def entriesAt (d : Disk) (components : List Text) : List (FileName × Tree) :=
  ((d.place? ['/'] components).map fun s => s.2.entries).getD []

/-! ## 2. Parts of a path -/

theorem isProper_of_place? {rootPart : Text} (h : d.place? rootPart parts = some s) :
    s.2.IsProperFor d.canonical := by
  have hroot : ∀ t ∈ d.root.2 :: d.root.1, t.IsProperFor d.canonical :=
    List.forall_mem_singleton.mpr d.isProper
  have hplace : ∀ t ∈ s.2 :: s.1, t.IsProperFor d.canonical := by
    unfold place? at h
    split_ifs at h
    · exact PathRules.forall_of_walk PathRules.isProperFor_entries h hroot
    · obtain ⟨start, hstart, hwalk⟩ := Option.bind_eq_some_iff.mp h
      exact PathRules.forall_of_walk PathRules.isProperFor_entries hwalk
        (PathRules.forall_of_descend PathRules.isProperFor_entries hstart hroot)
  exact hplace _ List.mem_cons_self

theorem place?_root (d : Disk) (rootPart : Text) (rest : List Text) :
    d.place? rootPart (rootPart :: rest) = d.rules.walk d.root rest :=
  if_pos rfl

theorem place?_of_ne {rootPart first : Text} (h : first ≠ rootPart) (rest : List Text) :
    d.place? rootPart (first :: rest)
      = (d.rules.descend d.root d.workingDirectory).bind fun s =>
          d.rules.walk s (first :: rest) :=
  if_neg fun heq => h (Option.some_inj.mp heq)

theorem place?_append (rootPart : Text) (hne : parts ≠ []) (more : List Text) :
    d.place? rootPart (parts ++ more)
      = (d.place? rootPart parts).bind fun s => d.rules.walk s more := by
  obtain ⟨first, rest, rfl⟩ := List.exists_cons_of_ne_nil hne
  rw [List.cons_append]
  by_cases hroot : first = rootPart
  · rw [hroot, place?_root, place?_root, PathRules.walk_append]
  · rw [place?_of_ne hroot, place?_of_ne hroot, Option.bind_assoc]
    exact congrArg _ (funext fun s => PathRules.walk_append s (first :: rest) more)

/-- Parts between slashes lead where the components lead that they stand for. -/
theorem place?_componentsOf {first : Text} {rest : List Text} (hslash : '/' ∉ first)
    (hlast : ∀ last ∈ rest.getLast?, Path.isIdle last = false) :
    d.place? ['/'] (Path.componentsOf (first :: rest)) = d.place? [] (first :: rest) := by
  rw [Path.componentsOf, Path.firstComponent]
  by_cases hroot : first = []
  · rw [if_pos hroot, hroot, place?_root, place?_root, PathRules.walk_filter _ hlast]
  · have hfirst : first ≠ ['/'] := by
      rintro rfl
      exact hslash (List.mem_singleton.mpr rfl)
    rw [if_neg hroot, place?_of_ne hfirst, place?_of_ne hroot]
    refine congrArg _ (funext fun s => ?_)
    rw [PathRules.walk_cons, PathRules.walk_cons]
    exact congrArg _ (funext fun s => PathRules.walk_filter s hlast)

/-! ## 3. The directory around a name -/

variable {path : Text} {above : List Text}

theorem find?_ofPath (h : path ≠ []) :
    d.find? path = (d.place? [] (Text.pieces '/' path)).map Prod.snd :=
  (if_neg h).trans (PathRules.under?_nil _)

/-- The entry of a directory that goes by a name is at that name in the directory. -/
theorem find?_entry (d : Disk) (p : Place) (name : FileName) :
    d.find? (p.entry name) = d.rules.lookup (d.entriesOf p) name := by
  unfold entriesOf find?
  show (if p.path = [] then none
    else d.rules.under? (d.place? [] (Text.pieces '/' p.path)) (p.below ++ [name])) = _
  split
  · rfl
  · rw [PathRules.under?_concat]
    cases d.rules.under? (d.place? [] (Text.pieces '/' p.path)) p.below <;> rfl

/-- The directory in which a path ends is where the parts lead to it. -/
theorem find?_directoryOf (d : Disk) (path : Text) :
    d.find? (Path.directoryOf path)
      = (d.place? [] (Path.directoryParts path)).map Prod.snd := by
  rw [Path.directoryOf_eq]
  by_cases hroot : Path.directoryParts path = [[]]
  · rw [if_pos hroot, hroot]
    rfl
  · rw [if_neg hroot, find?_ofPath (Path.glue_directoryParts_ne_nil hroot),
      Path.pieces_glue_directoryParts]

/-- A name behind the directory in which a path ends leads to the entry of that name. -/
theorem find?_join_directoryOf (hname : IsEntryName name) :
    d.find? (Path.join (Path.directoryOf path) name)
      = d.rules.lookup (d.entriesOf (Path.directoryOf path)) name := by
  rw [find?_ofPath (Path.join_directoryOf_ne_nil path hname),
    Path.pieces_join_directoryOf path hname, place?_append _ (Path.directoryParts_ne_nil path),
    entriesOf, find?_directoryOf]
  cases d.place? [] (Path.directoryParts path) with
  | none => rfl
  | some s =>
    rw [Option.bind_some, show d.rules.walk s [name] = d.rules.enter s name from
      PathRules.walk_concat_name hname s [], PathRules.enter, Option.map_map]
    exact Option.map_id'

/-- A single dot leads to the working directory. -/
theorem entriesAt_nil (d : Disk) :
    ((d.place? [] [['.']]).map fun s => s.2.entries).getD [] = d.entriesAt [] := by
  rw [place?_of_ne (by decide), entriesAt, place?, if_neg (by decide)]
  cases d.rules.descend d.root d.workingDirectory with
  | none => rfl
  | some s =>
    obtain ⟨above, here⟩ := s
    rw [Option.bind_some, Option.bind_some, PathRules.walk_cons]
    cases here with
    | directory es => rw [PathRules.step_idle (by decide), Option.bind_some]
    | file content =>
      rw [PathRules.step_file]
      rfl

/-- The directory in which a path ends is the one that its components without the last lead to. -/
theorem entriesOf_directoryOf (h : Path.components path = above ++ [name])
    (hname : IsEntryName name) :
    d.entriesOf (Path.directoryOf path) = d.entriesAt above := by
  rw [entriesOf, find?_directoryOf, Option.map_map]
  obtain ⟨-, ⟨rfl, hbare⟩ | ⟨-, hdirectory⟩⟩ := Path.partsFromEnd_of_components h hname
  · rw [hbare]
    exact entriesAt_nil d
  · -- the parts of the directory end with one that leads somewhere, so idle ones can be left out
    obtain ⟨first, rest, hparts⟩ := List.exists_cons_of_ne_nil (Path.directoryParts_ne_nil path)
    have hslash : '/' ∉ first :=
      Path.slash_not_mem_of_mem_directoryParts (hparts ▸ List.mem_cons_self)
    have hlast : ∀ last ∈ rest.getLast?, Path.isIdle last = false := by
      intro last hmem
      obtain ⟨front, rfl⟩ := List.getLast?_eq_some_iff.mp hmem
      exact Path.not_isIdle_getLast_directoryParts hparts (List.cons_ne_nil first front)
    rw [entriesAt, ← hdirectory, hparts, place?_componentsOf hslash hlast]
    rfl

theorem isProper_entriesAt (d : Disk) (components : List Text) :
    (Tree.directory (d.entriesAt components)).IsProperFor d.canonical := by
  unfold entriesAt
  -- where there is no directory there are no entries
  cases hplace : d.place? ['/'] components with
  | none => exact Tree.isProperFor_empty d.canonical
  | some s =>
    have hproper := isProper_of_place? hplace
    obtain ⟨above, here⟩ := s
    cases hproper with
    | file content => exact Tree.isProperFor_empty d.canonical
    | directory isEntryName nodup entries => exact .directory isEntryName nodup entries

end Disk

/-! ## 4. File systems that show a disk -/

/-- Something is at a place just where the disk has it, and a directory lists the entries that it
has on the disk, in any order. -/
structure Disk.IsShownBy (d : Disk) (files : FileAccess Id) : Prop where
  isSome_kind? (p : Place) : (Id.run (files.kind? p)).isSome = (d.find? p).isSome
  names_perm (p : Place) : (Id.run (files.names p)).Perm ((d.entriesOf p).map Prod.fst)

/-- The answers of a disk that lists its directories in some order. -/
def Disk.access (d : Disk) (order : List FileName → List FileName) : FileAccess Id where
  kind? p := (d.find? p).map Tree.kind
  content? p := (d.find? p).bind Tree.content?
  names p := order ((d.entriesOf p).map Prod.fst)
  maxDepth := (Tree.directory d.entries).depth

theorem Disk.isShownBy_access (d : Disk) {order : List FileName → List FileName}
    (horder : ∀ names, (order names).Perm names) : d.IsShownBy (d.access order) where
  isSome_kind? _ := Option.isSome_map
  names_perm _ := horder _

section

variable {d : Disk} {files : FileAccess Id} {path name : Text} {above : List Text}

namespace Disk.IsShownBy

theorem resolve_of_has (h : d.IsShownBy files) {p : Place} (hhas : d.Has p) :
    Id.run (files.resolve p) = p := by
  apply FileAccess.resolve_of_isSome
  rw [h.isSome_kind?]
  exact hhas

/-- A path that leads nowhere comes to lead to an entry with the name in lower case, if there is
one. -/
theorem resolve_of_not_has (h : d.IsShownBy files) (hhas : ¬ d.Has path)
    (hpath : Path.components path = above ++ [name]) (hname : IsEntryName name) :
    (∃ e ∈ d.entriesAt above, Text.lower e.1.shown = Text.lower name
        ∧ Id.run (files.resolve path) = (Place.ofPath (Path.directoryOf path)).entry e.1)
      ∨ (∀ e ∈ d.entriesAt above, Text.lower e.1.shown ≠ Text.lower name)
        ∧ Id.run (files.resolve path) = path := by
  have hperm := h.names_perm (Path.directoryOf path)
  rw [Disk.entriesOf_directoryOf hpath hname] at hperm
  have hlast : (Place.ofPath path).name? = some name :=
    Path.name?_eq_some_iff.mpr ⟨hname, above, hpath⟩
  rw [FileAccess.resolve_of_name? (by rwa [h.isSome_kind?]) hlast]
  show (∃ e ∈ _, _ ∧ (((Id.run (files.names (Path.directoryOf path))).find? _).map _).getD _ = _)
    ∨ _ ∧ (((Id.run (files.names (Path.directoryOf path))).find? _).map _).getD _ = _
  cases hfind : (Id.run (files.names (Path.directoryOf path))).find? fun n =>
      Text.lower n.shown == Text.lower name with
  | some n =>
    obtain ⟨e, he, rfl⟩ := List.mem_map.mp (hperm.mem_iff.mp (List.mem_of_find?_eq_some hfind))
    have hlower := List.find?_some hfind
    exact Or.inl ⟨e, he, beq_iff_eq.mp hlower, rfl⟩
  | none =>
    refine Or.inr ⟨fun e he hlower => ?_, rfl⟩
    have hother := List.find?_eq_none.mp hfind e.1
      (hperm.mem_iff.mpr (List.mem_map_of_mem he))
    exact hother (beq_iff_eq.mpr hlower)

end Disk.IsShownBy

/-- An entry of the directory around a path is found by its name in that directory, and if the name
is text behind the path of the directory as well. -/
theorem Disk.find?_of_mem_entriesAt (hpath : Path.components path = above ++ [name])
    (hname : IsEntryName name) {e : FileName × Tree} (he : e ∈ d.entriesAt above) :
    d.find? ((Place.ofPath (Path.directoryOf path)).entry e.1) = some e.2
      ∧ ∀ t : Text, e.1 = t → d.find? (Path.join (Path.directoryOf path) t) = some e.2 := by
  obtain _ | ⟨hisEntryName, hnodup, -⟩ := d.isProper_entriesAt above
  have hlookup : d.rules.lookup (d.entriesOf (Path.directoryOf path)) e.1 = some e.2 := by
    rw [Disk.entriesOf_directoryOf hpath hname]
    exact PathRules.lookup_of_mem hnodup he
  refine ⟨(Disk.find?_entry d _ e.1).trans hlookup, fun t ht => ?_⟩
  rw [Disk.find?_join_directoryOf (ht ▸ hisEntryName e he), ← ht]
  exact hlookup

end

/-- A path that leads somewhere stays as it is; another one comes to lead to some entry of the
directory around it that is shown with the same name in lower case, or stays as well if there is
none.  So the components of the two differ in the letter case of the last one alone, but for a dot
before a bare name, and a second time the path stays, whatever the order of the entries is then.
If the name of the entry is text, the path that is shown leads there too, and stays as well. -/
theorem resolve_stays_with_name {d : Disk} {files files' : FileAccess Id} (h : d.IsShownBy files)
    (h' : d.IsShownBy files') {path name : Text} {above : List Text}
    (hpath : Path.components path = above ++ [name]) (hname : IsEntryName name) :
    let found := Id.run (files.resolve path)
    (d.Has path → found = path)
      ∧ (¬ d.Has path → (∃ e ∈ d.entriesAt above, Text.lower e.1.shown = Text.lower name) →
          ∃ e ∈ d.entriesAt above, Text.lower e.1.shown = Text.lower name
            ∧ d.find? found = some e.2
            ∧ (∀ t : Text, e.1 = t →
                d.find? found.shown = some e.2
                  ∧ Id.run (files'.resolve found.shown) = found.shown)
            ∧ Path.components found.shown
                = (if above = [] then [['.']] else above) ++ [e.1.shown])
      ∧ (¬ d.Has path → (¬ ∃ e ∈ d.entriesAt above, Text.lower e.1.shown = Text.lower name) →
          found = path)
      ∧ (∃ front last, Path.components found.shown = front ++ [last]
          ∧ (front = above ∨ above = [] ∧ front = [['.']]) ∧ Text.lower last = Text.lower name)
      ∧ Id.run (files'.resolve found) = found := by
  intro found
  by_cases hhas : d.Has path
  · have hfound : found = path := h.resolve_of_has hhas
    rw [hfound]
    exact ⟨fun _ => rfl, absurd hhas, absurd hhas, ⟨above, name, hpath, Or.inl rfl, rfl⟩,
      h'.resolve_of_has hhas⟩
  obtain ⟨e, he, hlower, hfound⟩ | ⟨hnone, hfound⟩ := h.resolve_of_not_has hhas hpath hname
  · -- the entry has a name, so the path to it has the components of the directory and leads there
    obtain _ | ⟨hisEntryName, -, -⟩ := d.isProper_entriesAt above
    have hfound : found = (Place.ofPath (Path.directoryOf path)).entry e.1 := hfound
    have hshown : found.shown = Path.join (Path.directoryOf path) e.1.shown := hfound ▸ rfl
    have hcomponents : Path.components found.shown
        = (if above = [] then [['.']] else above) ++ [e.1.shown] :=
      hshown ▸ Path.components_join_directoryOf hpath hname (hisEntryName e he).shown
    obtain ⟨hentry, hjoin⟩ := Disk.find?_of_mem_entriesAt hpath hname he
    have hfind : d.find? found = some e.2 := hfound ▸ hentry
    have hfindShown : ∀ t : Text, e.1 = t →
        d.find? found.shown = some e.2
          ∧ Id.run (files'.resolve found.shown) = found.shown := by
      intro t ht
      have hfind : d.find? found.shown = some e.2 := by
        rw [hshown, ht, FileName.shown_ofText]
        exact hjoin t ht
      exact ⟨hfind, h'.resolve_of_has (Disk.has_of_find? hfind)⟩
    refine ⟨fun hpresent => absurd hpresent hhas,
      fun _ _ => ⟨e, he, hlower, hfind, hfindShown, hcomponents⟩,
      fun _ hno => absurd ⟨e, he, hlower⟩ hno, ⟨_, e.1.shown, hcomponents, ?_, hlower⟩,
      h'.resolve_of_has (Disk.has_of_find? hfind)⟩
    split
    next habove => exact Or.inr ⟨habove, rfl⟩
    next => exact Or.inl rfl
  · have hno : ¬ ∃ e ∈ d.entriesAt above, Text.lower e.1.shown = Text.lower name :=
      fun ⟨e, he, hlower⟩ => hnone e he hlower
    have hfound : found = path := hfound
    rw [hfound]
    refine ⟨fun _ => rfl, fun _ hsome => absurd hsome hno, fun _ _ => rfl,
      ⟨above, name, hpath, Or.inl rfl, rfl⟩, ?_⟩
    -- the other order has no entry of the name either
    obtain ⟨e, he, hlower, -⟩ | ⟨-, hagain⟩ := h'.resolve_of_not_has hhas hpath hname
    · exact absurd hlower (hnone e he)
    · exact hagain

/-- Two files with one name in lower case, in the working directory. -/
def homeDisk : Disk where
  canonical := id
  entries :=
    [("home".toList, .directory
      [(".ENV.Example".toList, .ofText "A=1".toList),
        (".Env.EXAMPLE".toList, .ofText "A=2".toList)])]
  isProper := by
    refine .directory (by decide +kernel) (by decide) (List.forall_mem_singleton.mpr ?_)
    refine .directory (by decide +kernel) (by decide +kernel)
      (List.forall_mem_cons.mpr ⟨.file _, ?_⟩)
    exact List.forall_mem_singleton.mpr (.file _)
  workingDirectory := ["home".toList]

/-- Either file may be found, and then stays the one. -/
theorem resolve_stays_with_name_home :
    let files := homeDisk.access id
    let files' := homeDisk.access List.reverse
    let path := "../home//.env.example/".toList
    let found := Id.run (files.resolve path)
    homeDisk.IsShownBy files
      ∧ homeDisk.IsShownBy files'
      ∧ Path.components path = ["..".toList, "home".toList] ++ [".env.example".toList]
      ∧ IsEntryName ".env.example".toList
      ∧ ¬ homeDisk.Has path
      ∧ found.shown = "../home/.ENV.Example".toList
      ∧ (Id.run (files'.resolve path)).shown = "../home/.Env.EXAMPLE".toList
      ∧ (∃ e ∈ homeDisk.entriesAt ["..".toList, "home".toList],
          homeDisk.find? found = some e.2
            ∧ Path.components found.shown = ["..".toList, "home".toList] ++ [e.1.shown])
      ∧ Id.run (files'.resolve found) = found := by
  intro files files' path found
  have hfiles : homeDisk.IsShownBy files := homeDisk.isShownBy_access fun _ => List.Perm.refl _
  have hfiles' : homeDisk.IsShownBy files' := homeDisk.isShownBy_access List.reverse_perm
  have hpath : Path.components path = ["..".toList, "home".toList] ++ [".env.example".toList] := by
    decide +kernel
  have hname : IsEntryName ".env.example".toList := by decide +kernel
  have hhas : ¬ homeDisk.Has path := by decide +kernel
  have hfound : found.shown = "../home/.ENV.Example".toList := by decide +kernel
  have hother : (Id.run (files'.resolve path)).shown = "../home/.Env.EXAMPLE".toList := by
    decide +kernel
  have hcandidate : ∃ e ∈ homeDisk.entriesAt ["..".toList, "home".toList],
      Text.lower e.1.shown = Text.lower ".env.example".toList := by decide +kernel
  obtain ⟨-, hentry, -, -, hagain⟩ := resolve_stays_with_name hfiles hfiles' hpath hname
  obtain ⟨e, he, -, hfind, -, hcomponents⟩ := hentry hhas hcandidate
  exact ⟨hfiles, hfiles', hpath, hname, hhas, hfound, hother, ⟨e, he, hfind, hcomponents⟩, hagain⟩

end EnvAudit
