import EnvAudit.Files.Search
import EnvAudit.Proofs.Files.Entry

/-!
# The files below a directory

A search goes through a directory and what is below it, asking the file system as it goes.  Where
the answers are those of a tree (`FileAccess.Shows`), it finds the files of the tree that are in no
skipped directory (`mem_filesBelow`), in the order of their names on the way
(`pairwise_filesBelow`).  The induction is on how many directories are inside one another, which the
search counts down.
-/

namespace EnvAudit

/-! ## 1. Trees and the files in them -/

namespace Tree

/-- A file stands below the tree, under the names of the entries on the way. -/
inductive HoldsFile : Tree → List FileName → ByteArray → Prop
  | here (content : ByteArray) : HoldsFile (.file content) [] content
  | inside {es : List (FileName × Tree)} {e : FileName × Tree} {names : List FileName}
      {content : ByteArray} (he : e ∈ es) (hfile : HoldsFile e.2 names content) :
      HoldsFile (.directory es) (e.1 :: names) content

theorem depth_le_of_mem {es : List (FileName × Tree)} {e : FileName × Tree} (he : e ∈ es) :
    e.2.depth ≤ depthOfEntries es := by
  induction es with
  | nil => cases he
  | cons first es ih =>
    rcases List.mem_cons.mp he with rfl | he
    · exact Nat.le_max_left _ _
    · exact Nat.le_trans (ih he) (Nat.le_max_right _ _)

/-- What passes from directories on to their entries is true of what is at a place. -/
theorem of_find? {P : Tree → Prop} (hentries : ∀ es, P (.directory es) → ∀ e ∈ es, P e.2)
    {t d : Tree} {p : Place} (h : t.find? p = some d) (ht : P t) : P d := by
  unfold find? at h
  split_ifs at h
  exact PathRules.of_under? hentries h fun s hs =>
    PathRules.forall_of_walk hentries hs (List.forall_mem_singleton.mpr ht)

theorem depth_le_of_find? {t d : Tree} {p : Place} (h : t.find? p = some d) :
    d.depth ≤ t.depth := by
  refine of_find? (P := fun d => d.depth ≤ t.depth) (fun es hes e he => ?_) h (Nat.le_refl _)
  exact Nat.le_trans (Nat.le_succ_of_le (depth_le_of_mem he)) hes

end Tree

/-! ## 2. File systems that show a tree -/

/-- What the file system answers about the place, and about everything below it, is what the tree
holds.  The entries of a directory are listed in the order in which the tree has them. -/
inductive FileAccess.Shows (files : FileAccess Id) : Place → Tree → Prop
  | file {p : Place} {content : ByteArray} (kind : Id.run (files.kind? p) = some .file)
      (content_eq : Id.run (files.content? p) = some content) : Shows files p (.file content)
  | directory {p : Place} {es : List (FileName × Tree)}
      (kind : Id.run (files.kind? p) = some .directory)
      (names : Id.run (files.names p) = es.map Prod.fst)
      (entries : ∀ e ∈ es, Shows files (p.entry e.1) e.2) : Shows files p (.directory es)

section

variable {files : FileAccess Id} {p : Place} {d : Tree}

theorem FileAccess.Shows.kind_eq (h : files.Shows p d) :
    Id.run (files.kind? p) = some d.kind := by
  cases h with
  | file kind _ => exact kind
  | directory kind _ _ => exact kind

/-- The file is found under its names. -/
theorem FileAccess.Shows.content?_under (h : files.Shows p d) {names : List FileName}
    {content : ByteArray} (hfile : d.HoldsFile names content) :
    Id.run (files.content? (p.under names)) = some content := by
  induction hfile generalizing p with
  | here content =>
    cases h with
    | file _ content_eq =>
      rw [Place.under, List.append_nil]
      exact content_eq
  | @inside _ e names _ he _ ih =>
    cases h with
    | directory _ _ entries =>
      have hnames : (p.entry e.1).under names = p.under (e.1 :: names) :=
        congrArg (Place.mk p.path) (List.append_assoc p.below [e.1] names)
      exact hnames ▸ ih (entries _ he)

/-- A tree as the working directory shows what is at a place. -/
theorem Tree.shows_access {t : Tree} (h : t.find? p = some d) (hproper : d.IsProper) :
    t.access.Shows p d := by
  induction hproper generalizing p with
  | file content =>
    refine .file ?_ ?_
    · show (t.find? p).map kind = some .file
      rw [h]
      rfl
    · show (t.find? p).bind content? = some content
      rw [h]
      rfl
  | directory isEntryName nodup _ ih =>
    refine .directory ?_ ?_ fun e he => ?_
    · show (t.find? p).map kind = some .directory
      rw [h]
      rfl
    · show ((t.find? p).map fun t => t.entries.map Prod.fst).getD [] = _
      rw [h]
      rfl
    · apply ih e he
      rw [find?_entry, h]
      exact PathRules.lookup_of_mem nodup he

/-- The file system has the tree at the place: one that a disk can hold, and no deeper than its
paths can be. -/
structure FileAccess.Holds (files : FileAccess Id) (p : Place) (d : Tree) : Prop where
  shows : files.Shows p d
  isProper : d.IsProper
  depth_le : d.depth ≤ files.maxDepth

/-- The working directory has all that its paths lead to. -/
theorem Tree.holds_access {t : Tree} (hproper : t.IsProper) (h : t.find? p = some d) :
    t.access.Holds p d :=
  have hbelow : d.IsProper := of_find? PathRules.isProperFor_entries h hproper
  ⟨shows_access h hbelow, hbelow, depth_le_of_find? h⟩

end

/-! ## 3. Names in order -/

theorem FileName.comesBefore_iff {a b : FileName} : a.comesBefore b ↔ a.bytes ≤ b.bytes := by
  rw [comesBefore, Bool.not_eq_true', decide_eq_false_iff_not, List.not_lt]

/-- Sorted names of which no two are the same are strictly sorted. -/
theorem pairwise_lt_mergeSort {names : List FileName} (h : names.Nodup) :
    (names.mergeSort FileName.comesBefore).Pairwise fun a b => a.bytes < b.bytes := by
  have hsorted : (names.mergeSort FileName.comesBefore).Pairwise fun a b => a.comesBefore b :=
    List.pairwise_mergeSort
      (fun a b c hab hbc => by
        rw [FileName.comesBefore_iff] at *
        exact List.le_trans hab hbc)
      (fun a b => by
        rw [Bool.or_eq_true, FileName.comesBefore_iff, FileName.comesBefore_iff]
        exact List.le_total _ _)
      names
  have hnodup : (names.mergeSort FileName.comesBefore).Nodup :=
    (List.mergeSort_perm names FileName.comesBefore).nodup_iff.mpr h
  refine (hsorted.and hnodup).imp fun {a b} hab => ?_
  refine List.not_le.mp fun hge => hab.2 ?_
  have hbytes : a.bytes = b.bytes := List.le_antisymm (FileName.comesBefore_iff.mp hab.1) hge
  cases a
  cases b
  exact congrArg FileName.mk hbytes

/-! ## 4. One directory -/

section

variable (files : FileAccess Id) (skips : FileName → Bool) (depth : Nat) (p : Place)

/-- The files that an entry of the kind stands for: itself, or those below it if it is not
skipped. -/
def filesUnder (name : FileName) : Option FileKind → List (List FileName)
  | some .file => [[name]]
  | some .directory =>
    if skips name then []
    else (Id.run (filesBelow files skips depth (p.entry name))).map (name :: ·)
  | _ => []

theorem filesBelow_succ :
    Id.run (filesBelow files skips (depth + 1) p)
      = ((Id.run (files.names p)).mergeSort FileName.comesBefore).flatMap fun name =>
          filesUnder files skips depth p name
            (Id.run (files.kind? (p.entry name))) := by
  unfold filesBelow
  simp only [Id.run_bind, List.idRun_mapM]
  rfl

theorem exists_eq_cons_of_mem_filesUnder {name : FileName} {kind : Option FileKind}
    {names : List FileName} (h : names ∈ filesUnder files skips depth p name kind) :
    ∃ rest, names = name :: rest := by
  unfold filesUnder at h
  split at h
  next => exact ⟨[], List.mem_singleton.mp h⟩
  next =>
    split at h
    next => cases h
    next =>
      rcases List.mem_map.mp h with ⟨rest, -, rfl⟩
      exact ⟨rest, rfl⟩
  next => cases h

end

/-! ## 5. Everything below a directory -/

section

variable {files : FileAccess Id} {skips : FileName → Bool}

/-- A file below a directory that the search comes to: it goes into all directories on the way. -/
structure Tree.IsReached (skips : FileName → Bool) (d : Tree) (names : List FileName) : Prop where
  ne_nil : names ≠ []
  holdsFile : ∃ content, d.HoldsFile names content
  not_skips : ∀ name ∈ names.dropLast, skips name = false

/-- What the search comes to under an entry. -/
theorem Tree.isReached_cons {es : List (FileName × Tree)} {names : List FileName} :
    (Tree.directory es).IsReached skips names
      ↔ ∃ e ∈ es, (e.2.kind = .file ∧ names = [e.1])
          ∨ e.2.kind = .directory ∧ skips e.1 = false
            ∧ ∃ rest, names = e.1 :: rest ∧ e.2.IsReached skips rest := by
  constructor
  · intro h
    rcases h.holdsFile with ⟨content, hfile⟩
    cases hfile with
    | @inside _ e rest _ he hfile =>
      refine ⟨e, he, ?_⟩
      cases hentry : e.2 with
      | file bytes =>
        rw [hentry] at hfile
        cases hfile
        exact Or.inl ⟨rfl, rfl⟩
      | directory es' =>
        have hne : rest ≠ [] := by
          rintro rfl
          rw [hentry] at hfile
          cases hfile
        have hkept := h.not_skips
        rw [List.dropLast_cons_of_ne_nil hne, List.forall_mem_cons] at hkept
        exact Or.inr ⟨rfl, hkept.1, rest, rfl, hne, ⟨content, hentry ▸ hfile⟩, hkept.2⟩
  · rintro ⟨e, he, ⟨hkind, rfl⟩ | ⟨hkind, hskips, rest, rfl, hreached⟩⟩
    · cases hentry : e.2 with
      | file bytes =>
        refine ⟨List.cons_ne_nil _ _, ⟨bytes, .inside he ?_⟩, fun _ hname => by cases hname⟩
        rw [hentry]
        exact .here bytes
      | directory es' =>
        rw [hentry] at hkind
        cases hkind
    · rcases hreached.holdsFile with ⟨content, hfile⟩
      refine ⟨List.cons_ne_nil _ _, ⟨content, .inside he hfile⟩, ?_⟩
      rw [List.dropLast_cons_of_ne_nil hreached.ne_nil, List.forall_mem_cons]
      exact ⟨hskips, hreached.not_skips⟩

/-- The search comes to all of it: as many directories as are inside one another, and it stops at
none before. -/
theorem mem_filesBelow {p : Place} {es : List (FileName × Tree)} {depth : Nat}
    (hshows : files.Shows p (.directory es)) (hdepth : (Tree.directory es).depth ≤ depth)
    {names : List FileName} :
    names ∈ Id.run (filesBelow files skips depth p)
      ↔ (Tree.directory es).IsReached skips names := by
  induction depth generalizing p es names with
  | zero => cases hdepth
  | succ depth ih =>
    rcases hshows with _ | ⟨-, hnames, hentries⟩
    have hentry : ∀ e ∈ es,
        (names ∈ filesUnder files skips depth p e.1
            (Id.run (files.kind? (p.entry e.1)))
          ↔ (e.2.kind = .file ∧ names = [e.1])
            ∨ e.2.kind = .directory ∧ skips e.1 = false
              ∧ ∃ rest, names = e.1 :: rest ∧ e.2.IsReached skips rest) := by
      intro e he
      have hbelow : e.2.depth ≤ depth :=
        Nat.le_trans (Tree.depth_le_of_mem he) (Nat.le_of_succ_le_succ hdepth)
      have hshows := hentries e he
      rw [hshows.kind_eq]
      cases hkind : e.2 with
      | file content => simp [Tree.kind, filesUnder]
      | directory es' =>
        rw [hkind] at hshows hbelow
        cases hskips : skips e.1 with
        | true => simp [Tree.kind, filesUnder, hskips]
        | false => simp [Tree.kind, filesUnder, hskips, ih hshows hbelow, and_comm, eq_comm]
    rw [filesBelow_succ, List.mem_flatMap, Tree.isReached_cons, hnames]
    constructor
    · rintro ⟨name, hname, hfound⟩
      rcases List.mem_map.mp (List.mem_mergeSort.mp hname) with ⟨e, he, rfl⟩
      exact ⟨e, he, (hentry e he).mp hfound⟩
    · rintro ⟨e, he, hfound⟩
      exact ⟨e.1, List.mem_mergeSort.mpr (List.mem_map_of_mem he), (hentry e he).mpr hfound⟩

/-- What is found comes in the order of its names, and nothing twice. -/
theorem pairwise_filesBelow {p : Place} {es : List (FileName × Tree)} {depth : Nat}
    (hshows : files.Shows p (.directory es)) (hproper : (Tree.directory es).IsProper) :
    (Id.run (filesBelow files skips depth p)).Pairwise fun a b =>
      a.map FileName.bytes < b.map FileName.bytes := by
  induction depth generalizing p es with
  | zero => exact List.Pairwise.nil
  | succ depth ih =>
    rcases hshows with _ | ⟨-, hnames, hentries⟩
    rcases hproper with _ | ⟨-, hnodup, hproper⟩
    rw [filesBelow_succ, List.pairwise_flatMap, hnames]
    constructor
    · -- below one entry the rest of the names is in order
      intro name hname
      rcases List.mem_map.mp (List.mem_mergeSort.mp hname) with ⟨e, he, rfl⟩
      have hshows := hentries e he
      have hbelow := hproper e he
      rw [hshows.kind_eq]
      cases hkind : e.2 with
      | file content => exact List.pairwise_singleton _ _
      | directory es' =>
        rw [hkind] at hshows hbelow
        unfold filesUnder
        cases hskips : skips e.1 with
        | true => exact List.Pairwise.nil
        | false =>
          refine List.pairwise_map.mpr ((ih hshows hbelow).imp fun hlt => ?_)
          exact List.cons_lt_cons_iff.mpr (Or.inr ⟨rfl, hlt⟩)
    · -- and of two entries their own names decide
      refine (pairwise_lt_mergeSort hnodup).imp fun hlt names hfound names' hfound' => ?_
      rcases exists_eq_cons_of_mem_filesUnder files skips depth p hfound with ⟨rest, rfl⟩
      rcases exists_eq_cons_of_mem_filesUnder files skips depth p hfound' with ⟨rest', rfl⟩
      exact List.cons_lt_cons_iff.mpr (Or.inl hlt)

end

end EnvAudit
