import Mathlib.Data.List.Nodup
import EnvAudit.Proofs.Files.Collect

/-!
# Which files have the same path in a report

A report gives the path of a file below the root as it is shown, with slashes for backslashes,
though a name may hold a backslash, and need not be text.  Two collected files have the same path
there just if what is shown of their names has the same parts between slashes and backslashes
(`reportedPath_eq_iff`), and a file passes for a client component just if some file with these parts
is one.  So paths tell the files apart exactly if the parts do, in particular where all names are
text without a backslash (`collect_tellsApart_iff`).
-/

namespace EnvAudit

/-! ## 1. Backslashes as slashes -/

/-- The parts between backslashes of names as they are shown. -/
def backslashParts (names : List FileName) : List Text :=
  names.flatMap fun name => Text.pieces '\\' name.shown

namespace Text

theorem replaceChar_append (a b : Char) (s t : Text) :
    replaceChar a b (s ++ t) = replaceChar a b s ++ replaceChar a b t :=
  List.map_append

theorem replaceChar_eq_glue_pieces (a b : Char) (s : Text) :
    replaceChar a b s = glue [b] (pieces a s) := by
  induction s with
  | nil => rfl
  | cons c s ih =>
    obtain ⟨p, ps, hps⟩ := exists_pieces_eq_cons a s
    rw [replaceChar, List.map_cons, ← replaceChar, ih, hps]
    by_cases hc : c = a
    · subst hc
      rw [if_pos rfl, pieces_sep, hps]
      rfl
    · rw [if_neg hc, pieces_cons hc hps]
      cases ps with
      | nil => rfl
      | cons q ps => rfl

theorem mem_of_mem_pieces {sep c : Char} {s p : Text} (hp : p ∈ pieces sep s) (hc : c ∈ p) :
    c ∈ s := by
  induction s generalizing p with
  | nil =>
    rw [List.mem_singleton.mp hp] at hc
    cases hc
  | cons d s ih =>
    by_cases hd : d = sep
    · subst hd
      rw [pieces_sep, List.mem_cons] at hp
      rcases hp with rfl | hp
      · cases hc
      · exact List.mem_cons_of_mem _ (ih hp hc)
    · obtain ⟨q, qs, hqs⟩ := exists_pieces_eq_cons sep s
      rw [hqs] at ih
      rw [pieces_cons hd hqs, List.mem_cons] at hp
      rcases hp with rfl | hp
      · exact (List.mem_cons.mp hc).elim (fun h => h ▸ List.mem_cons_self)
          fun hc => List.mem_cons_of_mem _ (ih List.mem_cons_self hc)
      · exact List.mem_cons_of_mem _ (ih (List.mem_cons_of_mem _ hp) hc)

end Text

theorem backslashParts_cons (name : FileName) (names : List FileName) :
    backslashParts (name :: names) = Text.pieces '\\' name.shown ++ backslashParts names :=
  List.flatMap_cons

theorem backslashParts_ne_nil {names : List FileName} (h : names ≠ []) :
    backslashParts names ≠ [] := by
  obtain ⟨name, rest, rfl⟩ := List.exists_cons_of_ne_nil h
  rw [backslashParts_cons]
  exact List.append_ne_nil_of_left_ne_nil (Text.pieces_ne_nil '\\' name.shown) _

/-- A path can be cut at slashes before it is shown. -/
theorem reportedPath_cons (name next : FileName) (rest : List FileName) :
    reportedPath (name :: next :: rest)
      = Text.replaceChar '\\' '/' name.shown ++ '/' :: reportedPath (next :: rest) := by
  unfold reportedPath
  rw [List.map_cons, List.map_cons, List.intercalate_cons_cons, List.append_assoc,
    List.singleton_append, Text.lossy_append_cons (by decide), Text.replaceChar_append]
  rfl

theorem reportedPath_eq_glue {names : List FileName} (h : names ≠ []) :
    reportedPath names = Text.glue ['/'] (backslashParts names) := by
  induction names with
  | nil => exact absurd rfl h
  | cons name rest ih =>
    cases rest with
    | nil =>
      rw [backslashParts, List.flatMap_singleton, reportedPath, List.map_singleton,
        List.intercalate_singleton]
      exact Text.replaceChar_eq_glue_pieces '\\' '/' name.shown
    | cons next rest =>
      rw [reportedPath_cons, ih (List.cons_ne_nil next rest), Text.replaceChar_eq_glue_pieces,
        backslashParts_cons name, Text.glue_append ['/'] (Text.pieces_ne_nil '\\' name.shown)
          (backslashParts_ne_nil (List.cons_ne_nil next rest)), List.append_assoc,
        List.singleton_append]

/-- The names on the way to a file: at least one, and none with a slash. -/
structure IsWay (names : List FileName) : Prop where
  ne_nil : names ≠ []
  slash_not_mem : ∀ name ∈ names, 0x2F ∉ name.bytes

theorem IsWay.pieces_reportedPath {names : List FileName} (h : IsWay names) :
    Text.pieces '/' (reportedPath names) = backslashParts names := by
  rw [reportedPath_eq_glue h.ne_nil]
  refine Text.pieces_glue (backslashParts_ne_nil h.ne_nil) fun part hpart hslash => ?_
  obtain ⟨name, hname, hpart⟩ := List.mem_flatMap.mp hpart
  have hshown : '/' ∈ name.shown := Text.mem_of_mem_pieces hpart hslash
  exact h.slash_not_mem name hname (FileName.slash_mem_shown.mp hshown)

theorem reportedPath_eq_iff {names names' : List FileName} (h : IsWay names) (h' : IsWay names') :
    reportedPath names = reportedPath names' ↔ backslashParts names = backslashParts names' := by
  rw [← h.pieces_reportedPath, ← h'.pieces_reportedPath]
  refine ⟨congrArg _, fun heq => ?_⟩
  rw [← Text.glue_pieces '/' (reportedPath names), heq, Text.glue_pieces]

/-- Bytes that are no character are all shown as the same one. -/
example : reportedPath [⟨[0x61, 0xFE]⟩] = reportedPath [⟨[0x61, 0xFF]⟩] := by decide

/-- A name that is shown as it is: a text without a backslash. -/
def FileName.IsPlain (name : FileName) : Prop := ∃ t : Text, name = t ∧ '\\' ∉ t

theorem backslashParts_of_isPlain {names : List FileName} (h : ∀ name ∈ names, name.IsPlain) :
    (backslashParts names).map FileName.ofText = names := by
  induction names with
  | nil => rfl
  | cons name rest ih =>
    obtain ⟨⟨t, rfl, ht⟩, hrest⟩ := List.forall_mem_cons.mp h
    rw [backslashParts_cons, FileName.shown_ofText, Text.pieces_eq_singleton ht,
      List.singleton_append, List.map_cons, ih hrest]

/-! ## 2. Collected files -/

/-- The collected files as a report has them. -/
def sourcesOf (found : List (List FileName × Text)) : List SourceFile :=
  found.map fun f => ⟨reportedPath f.1, f.2⟩

/-- A file passes for a client component of Next.js: its path is one of those that are marked. -/
def IsMarkedClient (found : List (List FileName × Text)) (f : List FileName × Text) : Prop :=
  reportedPath f.1 ∈ (rulesFor .nextJs (sourcesOf found)).clientFiles

/-- Different files have different paths, so that no file is marked in the place of another. -/
structure TellsApart (found : List (List FileName × Text)) : Prop where
  eq_of_path_eq : ∀ f ∈ found, ∀ f' ∈ found, reportedPath f.1 = reportedPath f'.1 → f = f'
  isMarkedClient_iff : ∀ f ∈ found, IsMarkedClient found f ↔ isClientComponent f.2

theorem isMarkedClient_iff_exists {found : List (List FileName × Text)} {f : List FileName × Text} :
    IsMarkedClient found f
      ↔ ∃ f' ∈ found, reportedPath f'.1 = reportedPath f.1 ∧ isClientComponent f'.2 := by
  unfold IsMarkedClient rulesFor sourcesOf
  rw [if_pos rfl, List.mem_map]
  simp only [List.mem_filter, List.mem_map]
  constructor
  · rintro ⟨_, ⟨⟨f', hf', rfl⟩, hclient⟩, hpath⟩
    exact ⟨f', hf', hpath, hclient⟩
  · rintro ⟨f', hf', hpath, hclient⟩
    exact ⟨_, ⟨⟨f', hf', rfl⟩, hclient⟩, hpath⟩

/-- Names on the way to a file are names of entries. -/
theorem Tree.IsProper.slash_not_mem {d : Tree} (hproper : d.IsProper) {names : List FileName}
    {content : ByteArray} (hfile : d.HoldsFile names content) :
    ∀ name ∈ names, 0x2F ∉ name.bytes := by
  induction hfile with
  | here content => exact List.forall_mem_nil _
  | inside he _ ih =>
    cases hproper with
    | directory isEntryName _ entries =>
      exact List.forall_mem_cons.mpr ⟨(isEntryName _ he).slash_not_mem, ih (entries _ he)⟩

namespace SourceSearch

variable {files : FileAccess Id} {s : SourceSearch} {es : List (FileName × Tree)}

theorem isWay_of_mem_found (h : files.Holds s.root (.directory es)) {f : List FileName × Text}
    (hf : f ∈ s.found files) : IsWay f.1 := by
  obtain ⟨hreached, -, hfile⟩ := (mem_found h).mp hf
  exact ⟨hreached.ne_nil, h.isProper.slash_not_mem hfile⟩

theorem nodup_map_fst_found (h : files.Holds s.root (.directory es)) :
    ((s.found files).map Prod.fst).Nodup := by
  refine List.pairwise_map.mpr ((pairwise_found h).imp fun hlt heq => ?_)
  rw [heq] at hlt
  exact List.lt_irrefl _ hlt

theorem reportedPath_eq_iff_of_mem_found (h : files.Holds s.root (.directory es))
    {f f' : List FileName × Text} (hf : f ∈ s.found files) (hf' : f' ∈ s.found files) :
    reportedPath f.1 = reportedPath f'.1 ↔ backslashParts f.1 = backslashParts f'.1 :=
  reportedPath_eq_iff (isWay_of_mem_found h hf) (isWay_of_mem_found h hf')

theorem isMarkedClient_found_iff (h : files.Holds s.root (.directory es)) {f : List FileName × Text}
    (hf : f ∈ s.found files) :
    IsMarkedClient (s.found files) f
      ↔ ∃ f' ∈ s.found files, backslashParts f'.1 = backslashParts f.1
          ∧ isClientComponent f'.2 := by
  rw [isMarkedClient_iff_exists]
  refine exists_congr fun f' => and_congr_right fun hf' => and_congr_left fun _ => ?_
  exact reportedPath_eq_iff_of_mem_found h hf' hf

/-- Where paths tell files apart, only the file itself is marked. -/
theorem tellsApart_found_iff (h : files.Holds s.root (.directory es)) :
    TellsApart (s.found files)
      ↔ ∀ f ∈ s.found files, ∀ f' ∈ s.found files,
          backslashParts f.1 = backslashParts f'.1 → f = f' := by
  constructor
  · intro hapart f hf f' hf' hparts
    exact hapart.eq_of_path_eq f hf f' hf' ((reportedPath_eq_iff_of_mem_found h hf hf').mpr hparts)
  · intro hparts
    refine ⟨fun f hf f' hf' hpath => ?_, fun f hf => ?_⟩
    · exact hparts f hf f' hf' ((reportedPath_eq_iff_of_mem_found h hf hf').mp hpath)
    · rw [isMarkedClient_found_iff h hf]
      constructor
      · rintro ⟨f', hf', hsame, hclient⟩
        rwa [← hparts f' hf' f hf hsame]
      · exact fun hclient => ⟨f, hf, rfl, hclient⟩

theorem tellsApart_found_of_forall (h : files.Holds s.root (.directory es))
    (hplain : ∀ f ∈ s.found files, ∀ name ∈ f.1, name.IsPlain) : TellsApart (s.found files) := by
  refine (tellsApart_found_iff h).mpr fun f hf f' hf' hparts => ?_
  apply List.inj_on_of_nodup_map (nodup_map_fst_found h) hf hf'
  rw [← backslashParts_of_isPlain (hplain f hf), hparts, backslashParts_of_isPlain (hplain f' hf')]

end SourceSearch

/-! ## 3. When paths tell files apart -/

/-- The collected files are those of a list in which no names occur twice.  Their paths tell them
apart just if no two of them have the same parts between slashes and backslashes, which is so where
all names are text without a backslash.  Two files with the same parts have the same path, and a
file is marked just if some file with its parts is a client component. -/
theorem collect_tellsApart_iff {files : FileAccess Id} {s : SourceSearch}
    {es : List (FileName × Tree)} (h : files.Holds s.root (.directory es)) :
    (Id.run (s.collect files) = .ok (sourcesOf (s.found files))
        ∧ ((s.found files).map Prod.fst).Nodup
        ∧ ∀ f ∈ s.found files, (Tree.directory es).HoldsFile f.1 (String.ofList f.2).toUTF8)
      ∧ (TellsApart (s.found files)
        ↔ ∀ f ∈ s.found files, ∀ f' ∈ s.found files,
            backslashParts f.1 = backslashParts f'.1 → f = f')
      ∧ ((∀ f ∈ s.found files, ∀ name ∈ f.1, name.IsPlain) → TellsApart (s.found files))
      ∧ (∀ f ∈ s.found files, ∀ f' ∈ s.found files,
          reportedPath f.1 = reportedPath f'.1 ↔ backslashParts f.1 = backslashParts f'.1)
      ∧ ∀ f ∈ s.found files,
          IsMarkedClient (s.found files) f
            ↔ ∃ f' ∈ s.found files, backslashParts f'.1 = backslashParts f.1
                ∧ isClientComponent f'.2 := by
  refine ⟨⟨SourceSearch.collect_eq_found h, SourceSearch.nodup_map_fst_found h, fun f hf => ?_⟩,
    SourceSearch.tellsApart_found_iff h, SourceSearch.tellsApart_found_of_forall h,
    fun f hf f' hf' => SourceSearch.reportedPath_eq_iff_of_mem_found h hf hf',
    fun f hf => SourceSearch.isMarkedClient_found_iff h hf⟩
  obtain ⟨-, -, hfile⟩ := (SourceSearch.mem_found h).mp hf
  exact hfile

/-- A client component in a directory, and beside that a file whose name has a backslash. -/
def twinEntries : List (FileName × Tree) :=
  [("a".toList, .directory [("b.ts".toList, .ofText "'use client'".toList)]),
    ("a\\b.ts".toList, .ofText "process.env.X".toList)]

/-- The names of the client component. -/
def twinInside : List FileName := ["a".toList, "b.ts".toList].map FileName.ofText

/-- The name of the file beside the directory. -/
def twinBeside : List FileName := ["a\\b.ts".toList].map FileName.ofText

theorem isProper_twinEntries : (Tree.directory twinEntries).IsProper := by
  refine .directory (by decide +kernel) (by decide) (List.forall_mem_cons.mpr ⟨?_, ?_⟩)
  · exact .directory (by decide +kernel) (by decide) (List.forall_mem_singleton.mpr (.file _))
  · exact List.forall_mem_singleton.mpr (.file _)

theorem holds_twinEntries :
    (Tree.directory twinEntries).access.Holds ['.'] (.directory twinEntries) :=
  Tree.holds_access isProper_twinEntries rfl

theorem holdsFile_inside : (Tree.directory twinEntries).HoldsFile
    twinInside (String.ofList "'use client'".toList).toUTF8 :=
  .inside List.mem_cons_self (.inside List.mem_cons_self (.here _))

theorem holdsFile_beside : (Tree.directory twinEntries).HoldsFile
    twinBeside (String.ofList "process.env.X".toList).toUTF8 :=
  .inside (List.mem_cons_of_mem _ List.mem_cons_self) (.here _)

theorem eq_of_holdsFile_twinEntries {names : List FileName} {content : ByteArray}
    (h : (Tree.directory twinEntries).HoldsFile names content) :
    names.dropLast = ["a".toList].map FileName.ofText ∨ names = twinBeside := by
  cases h with
  | inside he hfile =>
    rcases List.mem_cons.mp he with rfl | he
    · cases hfile with
      | inside he hfile =>
        obtain rfl := List.mem_singleton.mp he
        cases hfile
        exact Or.inl rfl
    · obtain rfl := List.mem_singleton.mp he
      cases hfile
      exact Or.inr rfl

/-- Without the directory the name with a backslash is the only one with its parts. -/
theorem collect_tellsApart_excluded :
    let files := (Tree.directory twinEntries).access
    let s := (SourceSearch.of ['.']).exclude ["a".toList]
    files.Holds s.root (.directory twinEntries)
      ∧ Id.run (s.collect files) = .ok (sourcesOf (s.found files))
      ∧ (twinBeside, "process.env.X".toList) ∈ s.found files
      ∧ TellsApart (s.found files) := by
  intro files s
  have hholds : files.Holds s.root (.directory twinEntries) := holds_twinEntries
  obtain ⟨⟨hcollect, hnodup, hfiles⟩, hapart, -⟩ := collect_tellsApart_iff hholds
  have hnames : ∀ f ∈ s.found files, f.1 = twinBeside := by
    intro f hf
    obtain ⟨hreached, -⟩ := (SourceSearch.mem_found hholds).mp hf
    refine (eq_of_holdsFile_twinEntries (hfiles f hf)).resolve_left fun hdir => ?_
    -- the search does not go into the directory
    have hskips := hreached.not_skips (.ofText "a".toList) (hdir ▸ List.mem_cons_self)
    revert hskips
    decide
  refine ⟨hholds, hcollect, ?_, hapart.mpr fun f hf f' hf' _ => ?_⟩
  · exact (SourceSearch.mem_found hholds).mpr
      ⟨⟨by decide, ⟨_, holdsFile_beside⟩, by decide⟩, by decide, holdsFile_beside⟩
  · exact List.inj_on_of_nodup_map hnodup hf hf' ((hnames f hf).trans (hnames f' hf').symm)

/-- The file beside the directory has the path of the one in it, and is marked in its place. -/
theorem not_tellsApart_twins :
    let files := (Tree.directory twinEntries).access
    let s := SourceSearch.of ['.']
    Id.run (s.collect files) = .ok (sourcesOf (s.found files))
      ∧ (twinInside, "'use client'".toList) ∈ s.found files
      ∧ (twinBeside, "process.env.X".toList) ∈ s.found files
      ∧ reportedPath twinInside = reportedPath twinBeside
      ∧ IsMarkedClient (s.found files) (twinBeside, "process.env.X".toList)
      ∧ isClientComponent "process.env.X".toList = false
      ∧ ¬ TellsApart (s.found files) := by
  intro files s
  have hinside : (twinInside, "'use client'".toList) ∈ s.found files :=
    (SourceSearch.mem_found holds_twinEntries).mpr
      ⟨⟨by decide, ⟨_, holdsFile_inside⟩, by decide⟩, by decide, holdsFile_inside⟩
  have hbeside : (twinBeside, "process.env.X".toList) ∈ s.found files :=
    (SourceSearch.mem_found holds_twinEntries).mpr
      ⟨⟨by decide, ⟨_, holdsFile_beside⟩, by decide⟩, by decide, holdsFile_beside⟩
  have hmarked : IsMarkedClient (s.found files) (twinBeside, "process.env.X".toList) :=
    isMarkedClient_iff_exists.mpr ⟨_, hinside, by decide, by decide⟩
  refine ⟨SourceSearch.collect_eq_found holds_twinEntries, hinside, hbeside, by decide, hmarked,
    by decide, fun hapart => ?_⟩
  exact absurd ((hapart.isMarkedClient_iff _ hbeside).mp hmarked) (by decide)

end EnvAudit
