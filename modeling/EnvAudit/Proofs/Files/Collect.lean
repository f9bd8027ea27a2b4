import EnvAudit.Proofs.Files.Walk

/-!
# The source files of a project

A search is built by settings, one after the other: excluded names add up, extensions replace those
before them (`skips_build`, `wants_build`).  Below a directory it collects the source files that the
settings describe, each once and no others, in the order of their paths (`collect_sources`).  Names
of files are bytes, and settings are text: a name that is no text is excluded by none.
-/

namespace EnvAudit

/-! ## 1. Texts of files -/

theorem FileAccess.text?_eq_some_iff {files : FileAccess Id} {p : Place} {text : Text} :
    Id.run (files.text? p) = some text
      ↔ Id.run (files.content? p) = some (String.ofList text).toUTF8 := by
  unfold text?
  rw [Id.run_bind, Id.run_pure, Option.bind_eq_some_iff]
  simp only [Text.ofUtf8?_eq_some_iff, exists_eq_right]

/-! ## 2. Settings -/

/-- One setting of a search. -/
inductive SearchSetting
  | exclude (names : List Text)
  | extensions (extensions : List Text)

namespace SearchSetting

/-- The extensions that the setting puts in place of others. -/
def newExtensions? : SearchSetting → Option (List Text)
  | .exclude _ => none
  | .extensions es => if es = [] then none else some (es.map fun e => e.dropWhile (· = '.'))

end SearchSetting

namespace SourceSearch

def set (s : SourceSearch) : SearchSetting → SourceSearch
  | .exclude names => s.exclude names
  | .extensions extensions => s.withExtensions extensions

/-- The search below the root after the settings. -/
def build (root : Place) (settings : List SearchSetting) : SourceSearch :=
  settings.foldl set (.of root)

theorem root_foldl_set (s : SourceSearch) (settings : List SearchSetting) :
    (settings.foldl set s).root = s.root := by
  induction settings generalizing s with
  | nil => rfl
  | cons setting settings ih =>
    rw [List.foldl_cons, ih]
    cases setting with
    | exclude names => rfl
    | extensions extensions =>
      rw [set, withExtensions]
      split <;> rfl

theorem mem_excluded_foldl_set (s : SourceSearch) (settings : List SearchSetting) (name : Text) :
    name ∈ (settings.foldl set s).excluded
      ↔ name ∈ s.excluded ∨ ∃ names, .exclude names ∈ settings ∧ name ∈ names := by
  induction settings generalizing s with
  | nil => simp
  | cons setting settings ih =>
    rw [List.foldl_cons, ih]
    cases setting with
    | exclude names => simp [set, exclude, or_and_right, exists_or, or_assoc]
    | extensions extensions =>
      rw [set, withExtensions]
      split <;> simp

theorem extensions_foldl_set (s : SourceSearch) (settings : List SearchSetting) :
    (settings.foldl set s).extensions
      = (settings.filterMap SearchSetting.newExtensions?).getLast?.getD s.extensions := by
  induction settings generalizing s with
  | nil => rfl
  | cons setting settings ih =>
    rw [List.foldl_cons, ih]
    cases setting with
    | exclude names => rfl
    | extensions extensions =>
      cases extensions with
      | nil => rfl
      | cons e es =>
        have hnew : (SearchSetting.extensions (e :: es)).newExtensions?
            = some ((e :: es).map fun e => e.dropWhile (· = '.')) := rfl
        rw [List.filterMap_cons_some hnew, List.getLast?_cons]
        rfl

end SourceSearch

/-- The extensions that are looked for after the settings: the last ones that were given. -/
def currentExtensions (settings : List SearchSetting) : List Text :=
  (settings.filterMap SearchSetting.newExtensions?).getLast?.getD sourceExtensions

/-- A directory of that name is gone into after the settings: it has none of the names to skip,
which are text. -/
def IsSearched (settings : List SearchSetting) (name : FileName) : Prop :=
  ∀ t : Text, name = t →
    t ∉ skippedDirectories ∧ ∀ names, .exclude names ∈ settings → t ∉ names

/-- A file of that name is looked for after the settings. -/
def IsWanted (settings : List SearchSetting) (name : FileName) : Prop :=
  ∃ ext, HasExtension name ext ∧ ext ∈ currentExtensions settings

namespace SourceSearch

theorem skips_eq_false_iff {s : SourceSearch} {name : FileName} :
    s.skips name = false ↔ ∀ t : Text, name = t → t ∉ s.excluded := by
  rw [skips, Option.any_eq_false]
  simp only [FileName.toText?_eq_some_iff, ← Bool.not_eq_true, List.contains_iff_mem]

theorem skips_build {root : Place} {name : FileName} {settings : List SearchSetting} :
    (build root settings).skips name = false ↔ IsSearched settings name := by
  rw [skips_eq_false_iff, build]
  simp [mem_excluded_foldl_set, IsSearched, of]

theorem wants_build {root : Place} {name : FileName} {settings : List SearchSetting} :
    (build root settings).wants name ↔ IsWanted settings name := by
  have hextensions : (build root settings).extensions = currentExtensions settings :=
    extensions_foldl_set (.of root) settings
  rw [wants, Option.any_eq_true, IsWanted, hextensions]
  simp only [FileName.extension?_toText?_iff, List.contains_iff_mem]

end SourceSearch

/-! ## 3. The files -/

/-- A source file below a directory: text in UTF-8 under a name that is looked for, in directories
that are gone into. -/
structure Tree.IsSource (d : Tree) (settings : List SearchSetting) (names : List FileName)
    (text : Text) : Prop where
  holdsFile : d.HoldsFile names (String.ofList text).toUTF8
  isWanted : ∃ name ∈ names.getLast?, IsWanted settings name
  isSearched : ∀ name ∈ names.dropLast, IsSearched settings name

namespace SourceSearch

variable {files : FileAccess Id} {s : SourceSearch} {es : List (FileName × Tree)}

/-- The names and the texts of the files that a search collects. -/
def found (s : SourceSearch) (files : FileAccess Id) : List (List FileName × Text) :=
  ((Id.run (filesBelow files s.skips files.maxDepth s.root)).filter fun names =>
    names.getLast?.any s.wants).filterMap fun names =>
      (Id.run (files.text? (s.root.under names))).map fun text => (names, text)

theorem collect_eq_found (h : files.Holds s.root (.directory es)) :
    Id.run (s.collect files)
      = .ok ((s.found files).map fun f => ⟨reportedPath f.1, f.2⟩) := by
  have hdirectory : Id.run (files.isDirectory s.root) = true := by
    unfold FileAccess.isDirectory
    rw [Id.run_bind, h.shows.kind_eq]
    rfl
  unfold collect found readSource
  rw [Id.run_bind, hdirectory, if_neg (by decide)]
  simp only [Id.run_bind, Id.run_pure, List.idRun_mapM, List.filterMap_map, List.map_filterMap,
    Option.map_map]
  rfl

theorem mem_found (h : files.Holds s.root (.directory es)) {names : List FileName} {text : Text} :
    (names, text) ∈ s.found files
      ↔ (Tree.directory es).IsReached s.skips names ∧ names.getLast?.any s.wants
        ∧ (Tree.directory es).HoldsFile names (String.ofList text).toUTF8 := by
  have hfound : (names, text) ∈ s.found files
      ↔ (names ∈ Id.run (filesBelow files s.skips files.maxDepth s.root)
        ∧ names.getLast?.any s.wants)
        ∧ Id.run (files.text? (s.root.under names)) = some text := by
    unfold found
    simp only [List.mem_filterMap, List.mem_filter, Option.map_eq_some_iff, Prod.mk.injEq]
    constructor
    · rintro ⟨names, hnames, text, htext, rfl, rfl⟩
      exact ⟨hnames, htext⟩
    · rintro ⟨hnames, htext⟩
      exact ⟨names, hnames, text, htext, rfl, rfl⟩
  rw [hfound, FileAccess.text?_eq_some_iff, mem_filesBelow h.shows h.depth_le, and_assoc]
  refine and_congr_right fun hreached => and_congr_right fun _ => ?_
  rcases hreached.holdsFile with ⟨content, hfile⟩
  constructor
  · intro hcontent
    rw [h.shows.content?_under hfile, Option.some.injEq] at hcontent
    exact hcontent ▸ hfile
  · exact h.shows.content?_under

theorem pairwise_found (h : files.Holds s.root (.directory es)) :
    (s.found files).Pairwise fun a b => a.1.map FileName.bytes < b.1.map FileName.bytes := by
  have horder : (Id.run (filesBelow files s.skips files.maxDepth s.root)).Pairwise fun a b =>
      a.map FileName.bytes < b.map FileName.bytes := pairwise_filesBelow h.shows h.isProper
  refine (horder.filter _).filterMap _ fun names names' hlt f hf f' hf' => ?_
  rcases Option.map_eq_some_iff.mp hf with ⟨text, -, rfl⟩
  rcases Option.map_eq_some_iff.mp hf' with ⟨text', -, rfl⟩
  exact hlt

end SourceSearch

/-- The search collects the source files of the directory, each once, and nothing else.  They come
in the order of their names on the way, compared by bytes one after the other, and not in that of
the paths that these make. -/
theorem collect_sources {files : FileAccess Id} {root : Place} {es : List (FileName × Tree)}
    (h : files.Holds root (.directory es)) (settings : List SearchSetting) :
    ∃ found : List (List FileName × Text),
      Id.run ((SourceSearch.build root settings).collect files)
          = .ok (found.map fun f => ⟨reportedPath f.1, f.2⟩)
        ∧ found.Pairwise (fun a b => a.1.map FileName.bytes < b.1.map FileName.bytes)
        ∧ ∀ names text, (names, text) ∈ found
          ↔ (Tree.directory es).IsSource settings names text := by
  have hroot : (SourceSearch.build root settings).root = root :=
    SourceSearch.root_foldl_set (.of root) settings
  rw [← hroot] at h
  refine ⟨_, SourceSearch.collect_eq_found h, SourceSearch.pairwise_found h, fun names text => ?_⟩
  rw [SourceSearch.mem_found h, Option.any_eq_true]
  constructor
  · rintro ⟨hreached, ⟨name, hname, hwants⟩, hfile⟩
    exact ⟨hfile, ⟨name, hname, SourceSearch.wants_build.mp hwants⟩,
      fun name hname => SourceSearch.skips_build.mp (hreached.not_skips name hname)⟩
  · rintro ⟨hfile, ⟨name, hname, hwanted⟩, hsearched⟩
    refine ⟨⟨?_, ⟨_, hfile⟩, fun name hname => ?_⟩, ⟨name, hname, ?_⟩, hfile⟩
    · rintro rfl
      cases hname
    · exact SourceSearch.skips_build.mpr (hsearched name hname)
    · exact SourceSearch.wants_build.mpr hwanted

/-- A name that is no text: no character has the byte in the middle. -/
def brokenName (front back : Text) : FileName := ⟨front.bytes ++ 0xFF :: back.bytes⟩

/-- A directory with a file in it, one below a directory, and one in a directory to skip.  Of the
names that are no text the first is not the one to skip, the second has an extension that is text,
and the last has none. -/
def webEntries : List (FileName × Tree) :=
  [("a-b.js".toList, .ofText "1".toList),
    ("a".toList, .directory
      [("z.ts".toList, .ofText "2".toList),
        ("dist".toList, .directory [("c.ts".toList, .ofText "3".toList)])]),
    (brokenName "node_modules".toList [], .directory
      [(brokenName "a".toList ".ts".toList, .ofText "4".toList)]),
    (brokenName "a.t".toList [], .ofText "5".toList)]

/-- A working directory with `web` in it. -/
def webTree : Tree := .directory [("web".toList, .directory webEntries)]

theorem isProper_webTree : webTree.IsProper := by
  have hdist : Tree.IsProper (.directory [("c.ts".toList, .ofText "3".toList)]) :=
    .directory (by decide +kernel) (by decide) (List.forall_mem_singleton.mpr (.file _))
  unfold webTree webEntries
  refine .directory (by decide +kernel) (by decide) (List.forall_mem_singleton.mpr ?_)
  refine .directory (by decide +kernel) (by decide +kernel) (List.forall_mem_cons.mpr ⟨.file _, ?_⟩)
  refine List.forall_mem_cons.mpr ⟨?_, List.forall_mem_cons.mpr ⟨?_, ?_⟩⟩
  · refine .directory (by decide +kernel) (by decide) (List.forall_mem_cons.mpr ⟨.file _, ?_⟩)
    exact List.forall_mem_singleton.mpr hdist
  · exact .directory (by decide +kernel) (by decide) (List.forall_mem_singleton.mpr (.file _))
  · exact List.forall_mem_singleton.mpr (.file _)

/-- The file below `a` is collected though its own name is excluded, and comes first.  The one
whose names are no text is collected as well, and reported by what is shown of them. -/
theorem collect_sources_web :
    let files := webTree.access
    let settings : List SearchSetting :=
      [.extensions ["js".toList], .exclude ["z.ts".toList], .extensions [".ts".toList, "js".toList],
        .extensions []]
    let broken := [brokenName "node_modules".toList [], brokenName "a".toList ".ts".toList]
    files.Holds "web".toList (.directory webEntries)
      ∧ ∃ found : List (List FileName × Text),
        Id.run ((SourceSearch.build "web".toList settings).collect files)
            = .ok (found.map fun f => ⟨reportedPath f.1, f.2⟩)
          ∧ found.Pairwise (fun a b => a.1.map FileName.bytes < b.1.map FileName.bytes)
          ∧ (["a".toList, "z.ts".toList].map FileName.ofText, "2".toList) ∈ found
          ∧ (["a-b.js".toList].map FileName.ofText, "1".toList) ∈ found
          ∧ (broken, "4".toList) ∈ found
          ∧ reportedPath broken = "node_modules\uFFFD/a\uFFFD.ts".toList
          ∧ (∀ text, ([brokenName "a.t".toList []], text) ∉ found)
          ∧ ∀ text, (["a".toList, "dist".toList, "c.ts".toList].map FileName.ofText, text)
              ∉ found := by
  intro files settings broken
  have hholds : files.Holds "web".toList (.directory webEntries) :=
    Tree.holds_access isProper_webTree (by rfl)
  have hwanted {name : FileName}
      (h : (SourceSearch.build "web".toList settings).wants name = true) :
      IsWanted settings name := SourceSearch.wants_build.mp h
  have hsearched {name : FileName}
      (h : (SourceSearch.build "web".toList settings).skips name = false) :
      IsSearched settings name := SourceSearch.skips_build.mp h
  rcases collect_sources hholds settings with ⟨found, hcollect, horder, hfound⟩
  refine ⟨hholds, found, hcollect, horder, ?_, ?_, ?_, by decide +kernel, fun text htext => ?_,
    fun text htext => ?_⟩
  · refine (hfound _ _).mpr ⟨?_, ⟨_, rfl, hwanted (by decide +kernel)⟩, ?_⟩
    · refine .inside (List.mem_cons_of_mem _ List.mem_cons_self) ?_
      exact .inside List.mem_cons_self (.here _)
    · exact List.forall_mem_singleton.mpr (hsearched (by decide +kernel))
  · refine (hfound _ _).mpr ⟨.inside List.mem_cons_self (.here _),
      ⟨_, rfl, hwanted (by decide +kernel)⟩, fun _ hname => by cases hname⟩
  · refine (hfound _ _).mpr ⟨?_, ⟨_, rfl, hwanted (by decide +kernel)⟩, ?_⟩
    · refine .inside (List.mem_cons_of_mem _ (List.mem_cons_of_mem _ List.mem_cons_self)) ?_
      exact .inside List.mem_cons_self (.here _)
    · exact List.forall_mem_singleton.mpr (hsearched (by decide +kernel))
  · obtain ⟨name, hname, hwanted⟩ := ((hfound _ _).mp htext).isWanted
    cases hname
    have hwants : (SourceSearch.build "web".toList settings).wants (brokenName "a.t".toList []) :=
      SourceSearch.wants_build.mpr hwanted
    exact absurd hwants (by decide +kernel)
  · have hdist := ((hfound _ _).mp htext).isSearched (.ofText "dist".toList) (by simp)
    exact (hdist _ rfl).1 (by decide)

end EnvAudit
