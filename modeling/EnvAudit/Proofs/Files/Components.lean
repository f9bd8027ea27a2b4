import EnvAudit.Proofs.Files.Entry

/-!
# The components of a path

A path has the same components with a slash or a dot more between its names or behind them.  A path
that is made of the directory in which another one ends and a name has the components of the other
with that name for the last (`components_join_directoryOf`); a bare name gets a dot in front.
-/

namespace EnvAudit.Path

variable {p name : Text} {above : List Text}

/-! ## 1. Components -/

/-- What the first part of a path stands for; nothing before a slash is the root. -/
def firstComponent (part : Text) : Text := if part = [] then ['/'] else part

/-- The components that parts between slashes stand for: the first, which may be a single dot, and
those behind it that lead somewhere. -/
def componentsOf : List Text → List Text
  | [] => []
  | first :: rest => firstComponent first :: rest.filter fun part => !isIdle part

def components (p : Text) : List Text := if p = [] then [] else componentsOf (Text.pieces '/' p)

theorem componentsOf_append {parts : List Text} (hne : parts ≠ []) (more : List Text) :
    componentsOf (parts ++ more) = componentsOf parts ++ more.filter fun part => !isIdle part := by
  obtain ⟨first, rest, rfl⟩ := List.exists_cons_of_ne_nil hne
  rw [List.cons_append, componentsOf, componentsOf, List.filter_append, List.cons_append]

theorem componentsOf_concat {parts : List Text} (hne : parts ≠ []) {part : Text}
    (hpart : isIdle part = false) :
    componentsOf (parts ++ [part]) = componentsOf parts ++ [part] := by
  rw [componentsOf_append hne, List.filter_cons_of_pos (by simp [hpart]), List.filter_nil]

/-- The parts are given last first. -/
theorem componentsOf_dropIdle (parts : List Text) :
    componentsOf (dropIdle parts).reverse = componentsOf parts.reverse := by
  fun_induction dropIdle parts with
  | case1 part next rest hidle ih =>
    have hne : (next :: rest).reverse ≠ [] := by simp
    rw [ih, List.reverse_cons (a := part), componentsOf_append hne,
      List.filter_cons_of_neg (by simp [hidle]), List.filter_nil, List.append_nil]
  | case2 part next rest hidle => rfl
  | case3 parts _ => rfl

theorem not_isIdle_of_dropIdle_eq_cons {parts : List Text} {last : Text}
    (h : dropIdle parts = last :: above) (hne : above ≠ []) : isIdle last = false := by
  fun_induction dropIdle parts with
  | case1 part next rest hidle ih => exact ih h
  | case2 part next rest hidle =>
    obtain ⟨rfl, -⟩ := List.cons.inj h
    exact Bool.eq_false_iff.mpr hidle
  | case3 parts hparts =>
    obtain ⟨next, rest, rfl⟩ := List.exists_cons_of_ne_nil hne
    exact absurd h (hparts last next rest)

/-! ## 2. The directory in which a path ends -/

/-- The parts of a path to the directory in which a path ends. -/
def directoryParts (p : Text) : List Text :=
  match partsFromEnd p with
  | _ :: part :: above => (dropIdle (part :: above)).reverse
  | _ => [['.']]

theorem exists_partsFromEnd (p : Text) : ∃ last above, partsFromEnd p = last :: above := by
  refine List.exists_cons_of_ne_nil (dropIdle_ne_nil (mt List.reverse_eq_nil_iff.mp ?_))
  exact Text.pieces_ne_nil '/' p

theorem slash_not_mem_of_mem_partsFromEnd {part : Text} (h : part ∈ partsFromEnd p) :
    '/' ∉ part := by
  have hmem := (dropIdle_suffix _).mem h
  exact Text.sep_not_mem_of_mem_pieces (List.mem_reverse.mp hmem)

theorem slash_not_mem_of_mem_directoryParts {part : Text} (h : part ∈ directoryParts p) :
    '/' ∉ part := by
  unfold directoryParts at h
  split at h
  next last next above hparts =>
    have hmem := (dropIdle_suffix _).mem (List.mem_reverse.mp h)
    exact slash_not_mem_of_mem_partsFromEnd (hparts ▸ List.mem_cons_of_mem last hmem)
  next =>
    rw [List.mem_singleton.mp h]
    decide

theorem directoryParts_ne_nil (p : Text) : directoryParts p ≠ [] := by
  unfold directoryParts
  split
  next => exact mt List.reverse_eq_nil_iff.mp (dropIdle_ne_nil (List.cons_ne_nil _ _))
  next => exact List.cons_ne_nil _ _

/-- The last of the parts leads somewhere, or there is no other. -/
theorem not_isIdle_getLast_directoryParts {parts : List Text} {last : Text}
    (h : directoryParts p = parts ++ [last]) (hne : parts ≠ []) : isIdle last = false := by
  unfold directoryParts at h
  split at h
  next =>
    rw [List.reverse_eq_iff, List.reverse_append] at h
    exact not_isIdle_of_dropIdle_eq_cons h (mt List.reverse_eq_nil_iff.mp hne)
  next =>
    have hlength := congrArg List.length h
    rw [List.length_append] at hlength
    have hpos := List.length_pos_iff.mpr hne
    simp only [List.length_cons, List.length_nil] at hlength
    omega

theorem pieces_glue_directoryParts (p : Text) :
    Text.pieces '/' (Text.glue ['/'] (directoryParts p)) = directoryParts p :=
  Text.pieces_glue (directoryParts_ne_nil p) fun _ => slash_not_mem_of_mem_directoryParts

/-- Only the root has no name to be written with. -/
theorem glue_directoryParts_ne_nil (h : directoryParts p ≠ [[]]) :
    Text.glue ['/'] (directoryParts p) ≠ [] := by
  intro hempty
  have hpieces := pieces_glue_directoryParts p
  rw [hempty] at hpieces
  exact h hpieces.symm

theorem directoryOf_eq (p : Text) :
    directoryOf p
      = if directoryParts p = [[]] then ['/'] else Text.glue ['/'] (directoryParts p) := by
  obtain ⟨last, above, hparts⟩ := exists_partsFromEnd p
  unfold directoryOf
  cases above with
  | nil =>
    -- a single part has no directory in front of it, and stands in the working directory
    have hbare : parent p = [] := by
      unfold parent
      rw [hparts]
      rfl
    rw [hbare, directoryParts, hparts]
    rfl
  | cons part above =>
    have hdirectory : directoryParts p = (dropIdle (part :: above)).reverse := by
      rw [directoryParts, hparts]
    by_cases hroot : dropIdle (part :: above) = [[]]
    · have hparent : parent p = ['/'] := by
        unfold parent
        rw [hparts]
        dsimp only
        rw [hroot]
      rw [hparent, hdirectory, hroot]
      rfl
    · have hother : directoryParts p ≠ [[]] := by
        rw [hdirectory]
        exact fun h => hroot (List.reverse_eq_iff.mp h)
      rw [parent_eq_glue hparts hroot, ← hdirectory, if_neg hother, if_neg]
      rw [Bool.not_eq_true, List.isEmpty_eq_false_iff]
      exact glue_directoryParts_ne_nil hother

/-- Behind a name in the directory stand just the parts of the directory. -/
theorem pieces_join_directoryOf (p : Text) (hname : IsEntryName name) :
    Text.pieces '/' (join (directoryOf p) name) = directoryParts p ++ [name] := by
  have hsingle : Text.pieces '/' name = [name] := Text.pieces_eq_singleton hname.slash_not_mem_text
  rw [directoryOf_eq]
  by_cases hroot : directoryParts p = [[]]
  · have hslash : (['/'] : Text).getLast? = some '/' := rfl
    rw [if_pos hroot, hroot, join, if_neg (by simp [hname.not_isAbsolute]), if_pos hslash,
      List.singleton_append, Text.pieces_sep, hsingle]
    rfl
  · have hpieces := pieces_glue_directoryParts p
    have hlast : (Text.glue ['/'] (directoryParts p)).getLast? ≠ some '/' := by
      intro hslash
      -- a slash at the end would leave an empty part behind it
      obtain ⟨front, hfront⟩ := List.getLast?_eq_some_iff.mp hslash
      rw [hfront, Text.pieces_append] at hpieces
      have hidle := not_isIdle_getLast_directoryParts hpieces.symm (Text.pieces_ne_nil '/' front)
      cases hidle
    have hne := glue_directoryParts_ne_nil hroot
    rw [if_neg hroot, join, if_neg (by simp [hname.not_isAbsolute, hne]), if_neg hlast,
      Text.pieces_append, hpieces, hsingle]

theorem join_directoryOf_ne_nil (p : Text) (hname : IsEntryName name) :
    join (directoryOf p) name ≠ [] := by
  intro hempty
  have hpieces := pieces_join_directoryOf p hname
  rw [hempty] at hpieces
  have hlength := congrArg List.length hpieces
  have hpos := List.length_pos_iff.mpr (directoryParts_ne_nil p)
  rw [List.length_append] at hlength
  simp only [Text.pieces, List.length_cons, List.length_nil] at hlength
  omega

/-! ## 3. Paths with a name -/

theorem ne_nil_of_components (h : components p = above ++ [name]) : p ≠ [] := by
  rintro rfl
  exact List.append_ne_nil_of_right_ne_nil above (List.cons_ne_nil name []) h.symm

theorem components_eq_of_partsFromEnd (hp : p ≠ []) :
    components p = componentsOf (partsFromEnd p).reverse := by
  rw [components, if_neg hp, partsFromEnd, componentsOf_dropIdle, List.reverse_reverse]

/-- The components of a path with a name are those of its directory and the name; a bare name is one
of the working directory. -/
theorem partsFromEnd_of_components (h : components p = above ++ [name])
    (hname : IsEntryName name) :
    (∃ parts, partsFromEnd p = name :: parts)
      ∧ (above = [] ∧ directoryParts p = [['.']]
        ∨ above ≠ [] ∧ componentsOf (directoryParts p) = above) := by
  have hcomponents := components_eq_of_partsFromEnd (ne_nil_of_components h)
  rw [h] at hcomponents
  obtain ⟨last, parts, hparts⟩ := exists_partsFromEnd p
  rw [hparts] at hcomponents
  cases parts with
  | nil =>
    -- one part, which is the name itself and not the root
    have hsingle : above ++ [name] = [] ++ [firstComponent last] := hcomponents
    obtain ⟨rfl, hlast⟩ := List.append_inj' hsingle rfl
    have hlast : name = firstComponent last := List.singleton_inj.mp hlast
    obtain rfl : name = last := by
      rw [hlast, firstComponent, if_neg]
      rintro rfl
      exact hname.slash_not_mem_text (hlast ▸ List.mem_singleton.mpr rfl)
    refine ⟨⟨[], hparts⟩, Or.inl ⟨rfl, ?_⟩⟩
    rw [directoryParts, hparts]
  | cons part parts =>
    -- with parts before it the last one leads somewhere, so it is a component by itself
    have hlast : isIdle last = false := not_isIdle_of_dropIdle_eq_cons hparts (by simp)
    rw [List.reverse_cons (a := last), componentsOf_concat (by simp) hlast] at hcomponents
    obtain ⟨habove, hlast⟩ := List.append_inj' hcomponents rfl
    obtain rfl : name = last := List.singleton_inj.mp hlast
    refine ⟨⟨_, hparts⟩, Or.inr ⟨?_, ?_⟩⟩
    · rw [habove]
      obtain ⟨first, rest, hfirst⟩ :=
        List.exists_cons_of_ne_nil (mt List.reverse_eq_nil_iff.mp (List.cons_ne_nil part parts))
      rw [hfirst, componentsOf]
      exact List.cons_ne_nil _ _
    · rw [directoryParts, hparts]
      dsimp only
      rw [componentsOf_dropIdle, habove]

/-- A path has a name just where its last component can be one of an entry. -/
theorem name?_eq_some_iff :
    name? p = some name ↔ IsEntryName name ∧ ∃ above, components p = above ++ [name] := by
  constructor
  · intro h
    obtain ⟨last, parts, hparts⟩ := exists_partsFromEnd p
    unfold name? at h
    rw [hparts] at h
    dsimp only at h
    split_ifs at h with hnone
    obtain rfl : last = name := Option.some.inj h
    have hname : IsEntryName last := by
      have hslash := slash_not_mem_of_mem_partsFromEnd (hparts ▸ List.mem_cons_self)
      simp only [isIdle, Bool.or_eq_true, List.isEmpty_iff, beq_iff_eq, not_or] at hnone
      exact isEntryName_ofText.mpr ⟨hnone.1.1, hnone.1.2, hnone.2, hslash⟩
    refine ⟨hname, ?_⟩
    have hp : p ≠ [] := by
      rintro rfl
      obtain ⟨rfl, -⟩ := List.cons.inj hparts
      exact hname.text_ne_nil rfl
    rw [components_eq_of_partsFromEnd hp, hparts, List.reverse_cons]
    cases parts with
    | nil => exact ⟨[], by rw [List.reverse_nil, List.nil_append, componentsOf, firstComponent,
        if_neg hname.text_ne_nil]; rfl⟩
    | cons part parts => exact ⟨_, componentsOf_concat (by simp) hname.not_isIdle⟩
  · rintro ⟨hname, above, h⟩
    obtain ⟨⟨parts, hparts⟩, -⟩ := partsFromEnd_of_components h hname
    unfold name?
    rw [hparts]
    simp [hname.not_isIdle, hname.text_ne_dots]

/-- The name in the path changes, and nothing before it but for a dot before a bare name. -/
theorem components_join_directoryOf {entry : Text} (h : components p = above ++ [name])
    (hname : IsEntryName name) (hentry : IsEntryName entry) :
    components (join (directoryOf p) entry)
      = (if above = [] then [['.']] else above) ++ [entry] := by
  rw [components, if_neg (join_directoryOf_ne_nil p hentry), pieces_join_directoryOf p hentry,
    componentsOf_concat (directoryParts_ne_nil p) hentry.not_isIdle]
  obtain ⟨-, ⟨rfl, hbare⟩ | ⟨habove, hdirectory⟩⟩ := partsFromEnd_of_components h hname
  · rw [hbare]
    rfl
  · rw [hdirectory, if_neg habove]

end EnvAudit.Path
