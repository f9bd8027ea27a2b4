import EnvAudit.Proofs.Files.Steps
import EnvAudit.Proofs.Text.Pieces

/-!
# Paths to entries of a directory

The entry of a directory that goes by a name is found at that name in the directory (`find?_entry`).
So it is at the path that joins the directory and the name, if the name is text, however the
directory is spelled (`find?_join`), and the directory in which such a path ends is the same one
(`find?_directoryOf_join`).
-/

namespace EnvAudit

/-! ## 1. Parts of a path from its end -/

namespace Path

theorem dropIdle_suffix (parts : List Text) : dropIdle parts <:+ parts := by
  fun_induction dropIdle parts with
  | case1 part next rest hidle ih => exact ih.trans (List.suffix_cons part (next :: rest))
  | case2 part next rest hidle => exact List.suffix_refl _
  | case3 parts _ => exact List.suffix_refl parts

theorem getLast?_dropIdle (parts : List Text) : (dropIdle parts).getLast? = parts.getLast? := by
  fun_induction dropIdle parts with
  | case1 part next rest hidle ih => rw [ih, List.getLast?_cons_cons]
  | case2 part next rest hidle => rfl
  | case3 parts _ => rfl

theorem dropIdle_ne_nil {parts : List Text} (h : parts ≠ []) : dropIdle parts ≠ [] := by
  rwa [Ne, ← List.getLast?_eq_none_iff, getLast?_dropIdle, List.getLast?_eq_none_iff]

theorem parent_eq_glue {path last : Text} {above : List Text}
    (h : partsFromEnd path = last :: above) (hroot : dropIdle above ≠ [[]]) :
    parent path = Text.glue ['/'] (dropIdle above).reverse := by
  unfold parent
  rw [h]
  dsimp only
  split
  next hnil => exact absurd hnil hroot
  next => rfl

end Path

namespace Tree

open PathRules (exact)

variable {t d : Tree} {p : Place} {dir name : Text}

/-! ## 2. Entries at a place -/

theorem find?_entry (t : Tree) (p : Place) (name : FileName) :
    t.find? (p.entry name) = (t.find? p).bind fun d => exact.lookup d.entries name := by
  unfold find?
  show (if p.path.isEmpty || Path.isAbsolute p.path then none
    else exact.under? _ (p.below ++ [name])) = _
  split
  · rfl
  · exact PathRules.under?_concat _ p.below name

/-- Only an empty first part keeps a path from being followed. -/
theorem find?_ofPath (t : Tree) (path : Text) :
    t.find? path
      = if (Text.pieces '/' path).head? = some [] then none
        else (exact.walk ([], t) (Text.pieces '/' path)).map Prod.snd := by
  have hdescend : t.find? path
      = if path.isEmpty || Path.isAbsolute path then none
        else (exact.walk ([], t) (Text.pieces '/' path)).map Prod.snd := by
    rw [← PathRules.under?_nil]
    rfl
  rw [hdescend]
  -- the first part is empty just where the path is, or where it starts with a slash
  cases path with
  | nil => rfl
  | cons c path =>
    by_cases hc : c = '/'
    · subst hc
      rw [Text.pieces_sep]
      rfl
    · obtain ⟨p, ps, hps⟩ := Text.exists_pieces_eq_cons '/' path
      rw [Text.pieces_cons hc hps]
      simp [Path.isAbsolute, hc]

theorem find?_eq_some_iff {path : Text} :
    t.find? path = some d
      ↔ (Text.pieces '/' path).head? ≠ some []
        ∧ ∃ above, exact.walk ([], t) (Text.pieces '/' path) = some (above, d) := by
  rw [find?_ofPath]
  split <;> simp_all

/-! ## 3. Joined paths -/

/-- The parts of a joined path are those of the directory, perhaps without an empty one at the end,
and the name. -/
theorem exists_pieces_join (h : t.find? dir = some d) (hname : IsEntryName name) :
    ∃ parts, Text.pieces '/' (Path.join dir name) = parts ++ [name] ∧ parts ≠ []
      ∧ parts.head? ≠ some [] ∧ ∃ above, exact.walk ([], t) parts = some (above, d) := by
  obtain ⟨hhead, around, hwalk⟩ := find?_eq_some_iff.mp h
  have hne : dir ≠ [] := by
    rintro rfl
    exact hhead rfl
  have hsingle : Text.pieces '/' name = [name] := Text.pieces_eq_singleton hname.slash_not_mem_text
  unfold Path.join
  rw [if_neg (by simp [hname.not_isAbsolute, hne])]
  by_cases hslash : dir.getLast? = some '/'
  · -- the slash at the end of the directory is the one before the name
    obtain ⟨front, rfl⟩ := List.getLast?_eq_some_iff.mp hslash
    obtain ⟨p, ps, hfront⟩ := Text.exists_pieces_eq_cons '/' front
    have hdir : Text.pieces '/' (front ++ ['/']) = (p :: ps) ++ [[]] := by
      rw [Text.pieces_append, hfront]
      rfl
    rw [if_pos hslash, List.append_assoc, List.singleton_append, Text.pieces_append, hsingle,
      hfront]
    rw [hdir] at hhead hwalk
    exact ⟨p :: ps, rfl, List.cons_ne_nil p ps, hhead, around,
      PathRules.walk_of_concat_idle rfl hwalk⟩
  · rw [if_neg hslash, Text.pieces_append, hsingle]
    exact ⟨_, rfl, Text.pieces_ne_nil '/' dir, hhead, around, hwalk⟩

theorem find?_join (h : t.find? dir = some d) (hname : IsEntryName name) :
    t.find? (Path.join dir name) = exact.lookup d.entries name := by
  obtain ⟨parts, hparts, hne, hhead, around, hwalk⟩ := exists_pieces_join h hname
  rw [find?_ofPath, hparts, List.head?_append_of_ne_nil parts hne, if_neg hhead,
    PathRules.walk_concat_name hname, hwalk, Option.bind_some, PathRules.enter, Option.map_map]
  exact Option.map_id'

theorem partsFromEnd_join (h : t.find? dir = some d) (hname : IsEntryName name) :
    ∃ above, Path.partsFromEnd (Path.join dir name) = name :: above ∧ above ≠ []
      ∧ above.getLast? ≠ some [] ∧ (∀ p ∈ above, '/' ∉ p)
      ∧ ∃ around, exact.walk ([], t) above.reverse = some (around, d) := by
  obtain ⟨parts, hparts, hne, hhead, hwalk⟩ := exists_pieces_join h hname
  have habove : parts.reverse ≠ [] := mt List.reverse_eq_nil_iff.mp hne
  refine ⟨parts.reverse, ?_, habove, ?_, ?_, ?_⟩
  · rw [Path.partsFromEnd, hparts, List.reverse_append]
    obtain ⟨last, rest, hrest⟩ := List.exists_cons_of_ne_nil habove
    rw [hrest]
    -- the name leads somewhere, so nothing is dropped behind it
    exact if_neg (by rw [hname.not_isIdle]; decide)
  · rwa [List.getLast?_reverse]
  · intro p hp
    refine Text.sep_not_mem_of_mem_pieces (s := Path.join dir name) ?_
    rw [hparts]
    exact List.mem_append_left _ (List.mem_reverse.mp hp)
  · rwa [List.reverse_reverse]

theorem name?_join (h : t.find? dir = some d) (hname : IsEntryName name) :
    Path.name? (Path.join dir name) = some name := by
  obtain ⟨above, hparts, -⟩ := partsFromEnd_join h hname
  unfold Path.name?
  rw [hparts]
  simp [hname.not_isIdle, hname.text_ne_dots]

theorem find?_directoryOf {path : Text} (h : t.find? (Path.parent path) = some d) :
    t.find? (Path.directoryOf path) = some d := by
  have hsome : (Path.parent path).isEmpty = false := by
    rw [List.isEmpty_eq_false_iff]
    intro hempty
    rw [hempty] at h
    cases h
  rw [Path.directoryOf, hsome]
  exact h

theorem find?_directoryOf_join (h : t.find? dir = some d) (hname : IsEntryName name) :
    t.find? (Path.directoryOf (Path.join dir name)) = some d := by
  obtain ⟨above, hparts, hne, hlast, hslash, around, hwalk⟩ := partsFromEnd_join h hname
  have hkept : (Path.dropIdle above).reverse ≠ [] :=
    mt List.reverse_eq_nil_iff.mp (Path.dropIdle_ne_nil hne)
  -- the first part stays what it is, so no path from the root comes about
  rw [← Path.getLast?_dropIdle] at hlast
  have hroot : Path.dropIdle above ≠ [[]] := by
    intro hroot
    rw [hroot] at hlast
    exact hlast rfl
  have hpieces : Text.pieces '/' (Text.glue ['/'] (Path.dropIdle above).reverse)
      = (Path.dropIdle above).reverse :=
    Text.pieces_glue hkept fun p hp =>
      hslash p ((Path.dropIdle_suffix above).mem (List.mem_reverse.mp hp))
  apply find?_directoryOf
  rw [Path.parent_eq_glue hparts hroot, find?_eq_some_iff, hpieces, List.head?_reverse]
  exact ⟨hlast, around, PathRules.walk_dropIdle hwalk⟩

/-! ## 4. Resolving a path -/

/-- The path is one for the entry of that name in the directory. -/
structure LeadsTo (t : Tree) (path : Text) (d : Tree) (name : Text) : Prop where
  name?_eq : Path.name? path = some name
  find?_eq : t.find? path = exact.lookup d.entries name
  find?_directory : t.find? (Path.directoryOf path) = some d

theorem leadsTo_join (h : t.find? dir = some d) (hname : IsEntryName name) :
    t.LeadsTo (Path.join dir name) d name where
  name?_eq := name?_join h hname
  find?_eq := find?_join h hname
  find?_directory := find?_directoryOf_join h hname

/-- A bare name is one for an entry of the working directory. -/
theorem leadsTo_name (es : List (FileName × Tree)) (hname : IsEntryName name) :
    (directory es).LeadsTo name (directory es) name := by
  have hpieces : Text.pieces '/' name = [name] := Text.pieces_eq_singleton hname.slash_not_mem_text
  have hparts : Path.partsFromEnd name = [name] := by
    rw [Path.partsFromEnd, hpieces]
    rfl
  refine ⟨?_, ?_, ?_⟩
  · unfold Path.name?
    rw [hparts]
    simp [hname.not_isIdle, hname.text_ne_dots]
  · rw [find?_ofPath, hpieces, if_neg (by simp [hname.text_ne_nil]),
      show exact.walk ([], directory es) [name] = exact.enter ([], directory es) name from
        PathRules.walk_concat_name hname ([], directory es) [],
      PathRules.enter, Option.map_map]
    exact Option.map_id'
  · have hbare : Path.directoryOf name = ['.'] := by
      unfold Path.directoryOf Path.parent
      rw [hparts]
      rfl
    rw [hbare]
    rfl

end Tree

namespace FileAccess

variable {files : FileAccess Id} {p : Place} {name : Text}

theorem resolve_of_isSome (h : (Id.run (files.kind? p)).isSome) :
    Id.run (files.resolve p) = p := by
  unfold resolve isPresent
  simp only [Id.run_bind, Id.run_pure, h, if_true]

theorem resolve_of_name? (h : ¬ (Id.run (files.kind? p)).isSome) (hname : p.name? = some name) :
    Id.run (files.resolve p)
      = (((Id.run (files.names p.directory)).find? fun n =>
          Text.lower n.shown == Text.lower name).map p.directory.entry).getD p := by
  unfold resolve isPresent findAnyCase?
  simp only [Id.run_bind, Id.run_pure, hname, if_neg h]

end FileAccess

namespace Tree

open PathRules (exact)

variable {t d : Tree} {name : Text}

/-- The entry of that name, or else the first one whose name differs in letter case alone. -/
def anyCase? (d : Tree) (name : Text) : Option Tree :=
  (exact.lookup d.entries name).or
    ((d.entries.find? fun e => Text.lower e.1.shown == Text.lower name).bind fun e =>
      exact.lookup d.entries e.1)

theorem find?_resolve {path : Text} (h : t.LeadsTo path d name) :
    t.find? (t.access.resolve path) = d.anyCase? name := by
  have hkind : Id.run (t.access.kind? path) = (exact.lookup d.entries name).map kind := by
    show (t.find? path).map kind = _
    rw [h.find?_eq]
  rw [anyCase?]
  cases hlookup : exact.lookup d.entries name with
  | some found =>
    have hpresent : t.access.resolve path = (path : Place) :=
      FileAccess.resolve_of_isSome (by rw [hkind, hlookup]; rfl)
    rw [hpresent, h.find?_eq, hlookup]
    rfl
  | none =>
    have hnames : Id.run (t.access.names (Path.directoryOf path)) = d.entries.map Prod.fst := by
      show ((t.find? _).map _).getD [] = _
      rw [h.find?_directory]
      rfl
    have hresolve : t.access.resolve path
        = (((d.entries.map Prod.fst).find? fun n => Text.lower n.shown == Text.lower name).map
            (Place.ofPath (Path.directoryOf path)).entry).getD path := by
      rw [← hnames]
      exact FileAccess.resolve_of_name? (by rw [hkind, hlookup]; exact Bool.false_ne_true)
        h.name?_eq
    rw [hresolve, List.find?_map, Option.none_or, Option.map_map]
    show t.find? ((Option.map _ (d.entries.find? fun e => Text.lower e.1.shown == _)).getD _) = _
    cases d.entries.find? fun e => Text.lower e.1.shown == Text.lower name with
    | none => exact h.find?_eq.trans hlookup
    | some e => exact (find?_entry t _ e.1).trans (by rw [h.find?_directory]; rfl)

end Tree

end EnvAudit
