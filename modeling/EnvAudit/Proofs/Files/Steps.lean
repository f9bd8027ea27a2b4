import Mathlib.Data.List.Nodup
import EnvAudit.Files.Tree
import EnvAudit.Proofs.Files.Name

/-!
# Steps through a tree

A path is followed part by part, a list of names name by name.  Each step leads on to an entry,
back to a directory around, or nowhere, so what passes from directories on to their entries is true
of all that a walk comes by (`forall_of_walk`, `forall_of_descend`).  All of this holds for any
rules of following a path.
-/

namespace EnvAudit

/-- A tree as a disk holds it that tells names apart by a canonical form: entries have names, and no
directory has two whose forms are one. -/
inductive Tree.IsProperFor (canonical : FileName → FileName) : Tree → Prop
  | file (content : ByteArray) : IsProperFor canonical (.file content)
  | directory {es : List (FileName × Tree)} (isEntryName : ∀ e ∈ es, IsEntryName e.1)
      (nodup : (es.map fun e => canonical e.1).Nodup)
      (entries : ∀ e ∈ es, IsProperFor canonical e.2) : IsProperFor canonical (.directory es)

/-- A tree as a disk holds it for which any difference of names counts. -/
abbrev Tree.IsProper (t : Tree) : Prop := t.IsProperFor PathRules.exact.canonical

theorem Tree.isProperFor_empty (canonical : FileName → FileName) : empty.IsProperFor canonical :=
  .directory (List.forall_mem_nil _) List.nodup_nil (List.forall_mem_nil _)

namespace PathRules

variable {r : PathRules} {s next : List Tree × Tree} {es : List (FileName × Tree)}

/-! ## 1. Looking up a name -/

theorem mem_of_lookup {name : FileName} {t : Tree} (h : r.lookup es name = some t) :
    ∃ e ∈ es, e.2 = t := by
  obtain ⟨e, hfind, rfl⟩ := Option.map_eq_some_iff.mp h
  exact ⟨e, List.mem_of_find?_eq_some hfind, rfl⟩

/-- An entry is found by its own name, as no other one has a name with its canonical form. -/
theorem lookup_of_mem (hnodup : (es.map fun e => r.canonical e.1).Nodup) {e : FileName × Tree}
    (he : e ∈ es) : r.lookup es e.1 = some e.2 := by
  unfold lookup
  induction es with
  | nil => cases he
  | cons first es ih =>
    rw [List.map_cons, List.nodup_cons] at hnodup
    rw [List.find?_cons]
    obtain rfl | he := List.mem_cons.mp he
    · rw [beq_self_eq_true]
      rfl
    · have hother : r.canonical first.1 ≠ r.canonical e.1 := fun heq =>
        hnodup.1 (heq ▸ List.mem_map_of_mem he)
      rw [beq_eq_false_iff_ne.mpr hother]
      exact ih hnodup.2 he

/-! ## 2. Steps -/

theorem step_file (above : List Tree) (content : ByteArray) (part : Text) :
    r.step (above, .file content) part = none := rfl

theorem step_idle {part : Text} (hidle : Path.isIdle part) (above : List Tree) :
    r.step (above, .directory es) part = some (above, .directory es) :=
  if_pos hidle

theorem step_name {name : Text} (h : IsEntryName name) (s : List Tree × Tree) :
    r.step s name = r.enter s name := by
  obtain ⟨above, here⟩ := s
  cases here with
  | file content => rfl
  | directory es => simp [step, h.not_isIdle, h.text_ne_dots]

theorem walk_cons (s : List Tree × Tree) (part : Text) (rest : List Text) :
    r.walk s (part :: rest) = (r.step s part).bind fun s => r.walk s rest :=
  List.foldlM_cons

theorem walk_append (s : List Tree × Tree) (parts more : List Text) :
    r.walk s (parts ++ more) = (r.walk s parts).bind fun s => r.walk s more :=
  List.foldlM_append

theorem walk_concat_name {name : Text} (h : IsEntryName name) (s : List Tree × Tree)
    (parts : List Text) : r.walk s (parts ++ [name]) = (r.walk s parts).bind (r.enter · name) := by
  rw [walk_append]
  refine congrArg _ (funext fun s => ?_)
  rw [walk_cons, step_name h]
  exact Option.bind_fun_some _

theorem descend_concat (s : List Tree × Tree) (names : List FileName) (name : FileName) :
    r.descend s (names ++ [name]) = (r.descend s names).bind (r.enter · name) := by
  unfold descend
  rw [List.foldlM_append]
  refine congrArg _ (funext fun s => ?_)
  rw [List.foldlM_cons]
  exact Option.bind_fun_some _

theorem under?_nil (start : Option (List Tree × Tree)) :
    r.under? start [] = start.map Prod.snd :=
  congrArg _ (Option.bind_fun_some start)

theorem under?_concat (start : Option (List Tree × Tree)) (names : List FileName)
    (name : FileName) :
    r.under? start (names ++ [name])
      = (r.under? start names).bind fun t => r.lookup t.entries name := by
  unfold under?
  simp only [descend_concat, enter, Option.map_bind, Option.bind_map, Option.bind_assoc,
    Option.map_map, Function.comp_def, Option.map_id_fun']
  rfl

/-- An idle part at the end asks for a directory, and leads nowhere else. -/
theorem walk_of_concat_idle {part : Text} (hidle : Path.isIdle part) {parts : List Text}
    (h : r.walk s (parts ++ [part]) = some next) : r.walk s parts = some next := by
  rw [walk_append] at h
  -- what the parts before it lead to has to be a directory, and is where the path ends
  obtain ⟨⟨above, here⟩, hparts, hlast⟩ := Option.bind_eq_some_iff.mp h
  rw [hparts]
  rw [walk_cons] at hlast
  cases here with
  | file content => cases hlast
  | directory es =>
    rw [step_idle hidle] at hlast
    exact hlast

/-- The parts are given last first. -/
theorem walk_dropIdle {parts : List Text} (h : r.walk s parts.reverse = some next) :
    r.walk s (Path.dropIdle parts).reverse = some next := by
  fun_induction Path.dropIdle parts with
  | case1 part next rest hidle ih =>
    rw [List.reverse_cons] at h
    exact ih (walk_of_concat_idle hidle h)
  | case2 part next rest hidle => exact h
  | case3 parts _ => exact h

/-- Idle parts can be left out, but for a last one, which asks for a directory. -/
theorem walk_filter {parts : List Text} (s : List Tree × Tree)
    (h : ∀ last ∈ parts.getLast?, Path.isIdle last = false) :
    r.walk s (parts.filter fun part => !Path.isIdle part) = r.walk s parts := by
  induction parts generalizing s with
  | nil => rfl
  | cons part rest ih =>
    have hrest : ∀ last ∈ rest.getLast?, Path.isIdle last = false := by
      intro last hlast
      apply h
      rw [List.getLast?_cons, hlast]
      rfl
    by_cases hidle : Path.isIdle part
    · rw [List.filter_cons_of_neg (by simp [hidle]), ih s hrest, walk_cons]
      obtain ⟨above, here⟩ := s
      cases here with
      | directory es => rw [step_idle hidle, Option.bind_some]
      | file content =>
        -- the part is not the last one, and no other leads on from a file either
        cases rest with
        | nil => exact absurd (h part rfl) (by simp [hidle])
        | cons next rest => rw [walk_cons, step_file, step_file, Option.bind_none, Option.bind_none]
    · rw [List.filter_cons_of_pos (by simp [hidle]), walk_cons, walk_cons]
      exact congrArg _ (funext fun s => ih s hrest)

/-! ## 3. What a walk comes by -/

section

variable {P : Tree → Prop} (hentries : ∀ es, P (.directory es) → ∀ e ∈ es, P e.2)
include hentries

theorem forall_of_enter {name : FileName} (h : r.enter s name = some next)
    (hs : ∀ t ∈ s.2 :: s.1, P t) : ∀ t ∈ next.2 :: next.1, P t := by
  obtain ⟨t, hlookup, rfl⟩ := Option.map_eq_some_iff.mp h
  obtain ⟨e, he, rfl⟩ := mem_of_lookup hlookup
  refine List.forall_mem_cons.mpr ⟨?_, hs⟩
  have hhere := hs s.2 List.mem_cons_self
  cases hdirectory : s.2 with
  | file content =>
    rw [hdirectory] at he
    cases he
  | directory es =>
    rw [hdirectory] at he hhere
    exact hentries es hhere e he

theorem forall_of_step {part : Text} (h : r.step s part = some next)
    (hs : ∀ t ∈ s.2 :: s.1, P t) : ∀ t ∈ next.2 :: next.1, P t := by
  obtain ⟨above, here⟩ := s
  cases here with
  | file content => cases h
  | directory es =>
    dsimp only [step] at h
    by_cases hidle : Path.isIdle part
    · rw [if_pos hidle] at h
      cases h
      exact hs
    rw [if_neg hidle] at h
    by_cases hdots : part = ['.', '.']
    · rw [if_pos hdots] at h
      -- two dots lead to one of the directories around, or stay at the top
      cases above with
      | nil =>
        split_ifs at h
        cases h
        exact hs
      | cons parent above =>
        cases h
        exact (List.forall_mem_cons.mp hs).2
    · rw [if_neg hdots] at h
      exact forall_of_enter hentries h hs

theorem forall_of_walk {parts : List Text} (h : r.walk s parts = some next)
    (hs : ∀ t ∈ s.2 :: s.1, P t) : ∀ t ∈ next.2 :: next.1, P t := by
  have hstep (s : List Tree × Tree) (part : Text) (next : List Tree × Tree) :
      r.step s part = some next → (∀ t ∈ s.2 :: s.1, P t) → ∀ t ∈ next.2 :: next.1, P t :=
    forall_of_step hentries
  exact of_foldlM_eq_some hstep h hs

theorem forall_of_descend {names : List FileName} (h : r.descend s names = some next)
    (hs : ∀ t ∈ s.2 :: s.1, P t) : ∀ t ∈ next.2 :: next.1, P t := by
  have henter (s : List Tree × Tree) (name : FileName) (next : List Tree × Tree) :
      r.enter s name = some next → (∀ t ∈ s.2 :: s.1, P t) → ∀ t ∈ next.2 :: next.1, P t :=
    forall_of_enter hentries
  exact of_foldlM_eq_some henter h hs

theorem of_under? {start : Option (List Tree × Tree)} {names : List FileName} {t : Tree}
    (h : r.under? start names = some t) (hstart : ∀ s ∈ start, ∀ t ∈ s.2 :: s.1, P t) : P t := by
  obtain ⟨next, hnext, rfl⟩ := Option.map_eq_some_iff.mp h
  obtain ⟨s, hs, hdescend⟩ := Option.bind_eq_some_iff.mp hnext
  exact forall_of_descend hentries hdescend (hstart s hs) _ List.mem_cons_self

end

/-- What a proper directory has is proper. -/
theorem isProperFor_entries {canonical : FileName → FileName} (es : List (FileName × Tree))
    (h : (Tree.directory es).IsProperFor canonical) : ∀ e ∈ es, e.2.IsProperFor canonical := by
  cases h with
  | directory _ _ entries => exact entries

end PathRules

end EnvAudit
