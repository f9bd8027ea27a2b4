import EnvAudit.Text.Basic

/-!
# Pieces between separators

`pieces` cuts a text at every separator and `glue` puts separators back.  What is cut apart holds no
separator (`sep_not_mem_of_mem_pieces`), and pieces without one are found again (`pieces_glue`).  A
word stands in a text between two separators just if it is a piece with one on either side
(`between_infix_iff`).
-/

namespace EnvAudit.Text

variable {sep : Char}

theorem pieces_sep (sep : Char) (s : Text) : pieces sep (sep :: s) = [] :: pieces sep s :=
  if_pos rfl

theorem pieces_cons {c : Char} (hc : c ≠ sep) {s p : Text} {ps : List Text}
    (hs : pieces sep s = p :: ps) : pieces sep (c :: s) = (c :: p) :: ps := by
  unfold pieces
  rw [if_neg hc, hs]

theorem exists_pieces_eq_cons (sep : Char) (s : Text) : ∃ p ps, pieces sep s = p :: ps :=
  List.exists_cons_of_ne_nil (pieces_ne_nil sep s)

theorem pieces_append (sep : Char) (s t : Text) :
    pieces sep (s ++ sep :: t) = pieces sep s ++ pieces sep t := by
  induction s with
  | nil => exact pieces_sep sep t
  | cons c s ih =>
    by_cases hc : c = sep
    · subst hc
      rw [List.cons_append, pieces_sep, pieces_sep, ih, List.cons_append]
    · -- the first piece grows, and no piece behind it changes
      obtain ⟨p, ps, hps⟩ := exists_pieces_eq_cons sep s
      rw [hps, List.cons_append] at ih
      rw [List.cons_append, pieces_cons hc hps, pieces_cons hc ih, List.cons_append]

theorem sep_not_mem_of_mem_pieces {s p : Text} (h : p ∈ pieces sep s) : sep ∉ p := by
  induction s generalizing p with
  | nil =>
    rw [List.mem_singleton.mp h]
    exact List.not_mem_nil
  | cons c s ih =>
    by_cases hc : c = sep
    · subst hc
      rw [pieces_sep, List.mem_cons] at h
      obtain rfl | h := h
      · exact List.not_mem_nil
      · exact ih h
    · obtain ⟨q, qs, hqs⟩ := exists_pieces_eq_cons sep s
      rw [pieces_cons hc hqs, List.mem_cons] at h
      rw [hqs] at ih
      obtain rfl | h := h
      · exact List.not_mem_cons_of_ne_of_not_mem (Ne.symm hc) (ih List.mem_cons_self)
      · exact ih (List.mem_cons_of_mem q h)

theorem pieces_eq_singleton {s : Text} (h : sep ∉ s) : pieces sep s = [s] := by
  induction s with
  | nil => rfl
  | cons c s ih =>
    rw [List.mem_cons, not_or] at h
    exact pieces_cons (Ne.symm h.1) (ih h.2)

theorem pieces_glue {ps : List Text} (hne : ps ≠ []) (h : ∀ p ∈ ps, sep ∉ p) :
    pieces sep (glue [sep] ps) = ps := by
  induction ps with
  | nil => exact absurd rfl hne
  | cons p ps ih =>
    rw [List.forall_mem_cons] at h
    cases ps with
    | nil => exact pieces_eq_singleton h.1
    | cons q ps =>
      show pieces sep (p ++ [sep] ++ glue [sep] (q :: ps)) = _
      rw [List.append_assoc, List.singleton_append, pieces_append, pieces_eq_singleton h.1,
        ih (List.cons_ne_nil q ps) h.2, List.singleton_append]

/-! ## Words between two separators -/

theorem glue_append (w : Text) {ps qs : List Text} (hps : ps ≠ []) (hqs : qs ≠ []) :
    glue w (ps ++ qs) = glue w ps ++ w ++ glue w qs := by
  induction ps with
  | nil => exact absurd rfl hps
  | cons p ps ih =>
    cases ps with
    | nil =>
      obtain ⟨q, qs, rfl⟩ := List.exists_cons_of_ne_nil hqs
      rfl
    | cons p' ps =>
      show p ++ w ++ glue w (p' :: ps ++ qs) = p ++ w ++ glue w (p' :: ps) ++ w ++ glue w qs
      rw [ih (List.cons_ne_nil p' ps)]
      simp only [List.append_assoc]

/-- A piece that is neither the first nor the last has a separator on either side. -/
theorem between_infix_iff {w s : Text} (hw : sep ∉ w) :
    sep :: (w ++ [sep]) <:+: s ↔ w ∈ (pieces sep s).tail.dropLast := by
  constructor
  · rintro ⟨front, back, rfl⟩
    have hsplit : pieces sep (front ++ sep :: (w ++ [sep]) ++ back)
        = pieces sep front ++ w :: pieces sep back := by
      rw [List.append_assoc, List.cons_append, List.append_assoc, List.singleton_append,
        pieces_append, pieces_append, pieces_eq_singleton hw, List.singleton_append]
    obtain ⟨p, ps, hfront⟩ := exists_pieces_eq_cons sep front
    obtain ⟨q, qs, hback⟩ := exists_pieces_eq_cons sep back
    rw [hsplit, hfront, hback, List.cons_append, List.tail_cons, List.dropLast_append_cons,
      List.dropLast_cons_cons]
    exact List.mem_append_right ps List.mem_cons_self
  · intro h
    obtain ⟨p, ps, hps⟩ := exists_pieces_eq_cons sep s
    rw [hps, List.tail_cons] at h
    -- the last piece stands behind the word, and the first before it
    obtain rfl | ⟨others, last, hlast⟩ := ps.eq_nil_or_concat
    · cases h
    · rw [List.concat_eq_append] at hlast
      subst hlast
      rw [List.dropLast_concat] at h
      obtain ⟨before, after, rfl⟩ := List.append_of_mem h
      have hpieces : pieces sep s = (p :: before) ++ ([w] ++ (after ++ [last])) := by
        rw [hps]
        simp
      refine ⟨glue [sep] (p :: before), glue [sep] (after ++ [last]), ?_⟩
      rw [← glue_pieces sep s, hpieces, glue_append [sep] (List.cons_ne_nil p before) (by simp),
        glue_append [sep] (List.cons_ne_nil w []) (by simp)]
      simp [glue]

end EnvAudit.Text
