import EnvAudit.Proofs.Text.Places

/-!
# All successes of a reader

`matchesOf` goes over a text from left to right and passes over what a success has taken.  For a
reader that knows its beginning by a character which cannot stand again inside what it takes,
nothing is lost in this way: `mem_matchesOf_iff_reads` says that the successes are the places of
the text where the reader succeeds, `mem_matchesOf` the same for a reader that is not told the
character before, and `pairwise_matchesOf` that they are listed in the order of the text.
-/

namespace EnvAudit.Text

variable {α : Type}

/-! ## 1. Successes are where the reader succeeds -/

/-- Whatever the reader takes begins with a character of the class, and none stands in it again. -/
def StartsApart (starts : Char → Bool) (read : Option Char → Text → Option (α × Text)) : Prop :=
  ∀ before s a rest, read before s = some (a, rest) →
    ∃ c w, s = c :: (w ++ rest) ∧ starts c ∧ ∀ d ∈ w, ¬ starts d

/-- The reader succeeds at the place of the match, in a text before which `offset` characters have
gone by, the last of them `before`. -/
def ReadsFrom (read : Option Char → Text → Option (α × Text)) (offset : Nat)
    (before : Option Char) (s : Text) (m : Match α) : Prop :=
  ∃ u v rest, s = u ++ v ∧ m.offset = offset + u.length
    ∧ read (u.getLast?.or before) v = some (m.value, rest)

theorem readsFrom_cons {read : Option Char → Text → Option (α × Text)} {offset : Nat}
    {before : Option Char} {c : Char} {s : Text} {m : Match α} :
    ReadsFrom read offset before (c :: s) m
      ↔ (m.offset = offset ∧ ∃ rest, read before (c :: s) = some (m.value, rest))
        ∨ ReadsFrom read (offset + 1) (some c) s m := by
  constructor
  · intro h
    obtain ⟨u, v, rest, hs, hoffset, hread⟩ := h
    obtain ⟨rfl, rfl⟩ | ⟨u', rfl, rfl⟩ := List.cons_eq_append_iff.mp hs
    · exact Or.inl ⟨hoffset, rest, hread⟩
    · rw [List.length_cons] at hoffset
      rw [getLast?_cons_or] at hread
      exact Or.inr ⟨u', v, rest, rfl, by omega, hread⟩
  · intro h
    obtain ⟨hoffset, rest, hread⟩ | ⟨u, v, rest, rfl, hoffset, hread⟩ := h
    · exact ⟨[], c :: s, rest, rfl, hoffset, hread⟩
    · refine ⟨c :: u, v, rest, rfl, ?_, by rwa [getLast?_cons_or]⟩
      rw [List.length_cons]
      omega

/-- Every success is at a place where the reader succeeds, whatever the reader. -/
theorem readsFrom_of_mem_matchesFrom {read : Option Char → Text → Option (α × Text)}
    {offset skip : Nat} {before : Option Char} {s : Text} {m : Match α}
    (h : m ∈ matchesFrom read offset skip before s) : ReadsFrom read offset before s m := by
  fun_induction matchesFrom read offset skip before s with
  | case1 => cases h
  | case2 _ _ _ _ _ ih => exact readsFrom_cons.mpr (Or.inr (ih h))
  | case3 _ _ _ _ _ ih => exact readsFrom_cons.mpr (Or.inr (ih h))
  | case4 offset _ c s a rest hsome ih =>
    obtain rfl | hlater := List.mem_cons.mp h
    · exact readsFrom_cons.mpr (Or.inl ⟨rfl, rest, hsome⟩)
    · exact readsFrom_cons.mpr (Or.inr (ih hlater))

theorem mem_matchesFrom_iff_readsFrom {starts : Char → Bool}
    {read : Option Char → Text → Option (α × Text)} (hread : StartsApart starts read)
    {offset skip : Nat} {before : Option Char} {s : Text} (hskip : ∀ c ∈ s.take skip, ¬ starts c)
    (m : Match α) :
    m ∈ matchesFrom read offset skip before s ↔ ReadsFrom read offset before s m := by
  fun_induction matchesFrom read offset skip before s with
  | case1 =>
    refine iff_of_false List.not_mem_nil ?_
    intro h
    obtain ⟨u, v, rest, hs, _, hv⟩ := h
    obtain ⟨c, w, rfl, _⟩ := hread _ v _ rest hv
    exact List.append_ne_nil_of_right_ne_nil u (List.cons_ne_nil _ _) hs.symm
  | case2 offset skip before c s ih =>
    rw [List.take_succ_cons, List.forall_mem_cons] at hskip
    rw [ih hskip.2, readsFrom_cons, or_iff_right]
    -- a success here would begin inside an earlier success
    intro h
    obtain ⟨_, rest, hv⟩ := h
    obtain ⟨d, w, hs, hd, _⟩ := hread _ _ _ rest hv
    exact hskip.1 ((List.cons.inj hs).1 ▸ hd)
  | case3 offset before c s hnone ih =>
    rw [ih (by simp), readsFrom_cons, or_iff_right]
    intro h
    obtain ⟨_, rest, hv⟩ := h
    rw [hnone] at hv
    cases hv
  | case4 offset before c s a rest hsome ih =>
    obtain ⟨d, w, hs, _, hw⟩ := hread _ _ _ rest hsome
    obtain ⟨rfl, rfl⟩ := List.cons.inj hs
    -- the places passed over next are those of `w`, where no success can begin
    have htaken : (w ++ rest).take ((w ++ rest).length - rest.length) = w := by
      rw [List.length_append, Nat.add_sub_cancel, List.take_left]
    rw [List.mem_cons, ih (by rwa [htaken]), readsFrom_cons]
    refine or_congr_left ?_
    constructor
    · intro h
      obtain rfl := h
      exact ⟨rfl, rest, hsome⟩
    · intro h
      obtain ⟨hoffset, rest', hv⟩ := h
      rw [hsome] at hv
      cases m
      cases hv
      cases hoffset
      rfl

/-- The successes are the places where the reader succeeds. -/
theorem mem_matchesOf_iff_reads {starts : Char → Bool}
    {read : Option Char → Text → Option (α × Text)} (hread : StartsApart starts read) {s : Text}
    {m : Match α} :
    m ∈ matchesOf read s
      ↔ ∃ before rest, m.offset = before.length ∧ Reads read s before (m.value, rest) := by
  unfold matchesOf
  rw [mem_matchesFrom_iff_readsFrom hread (by simp)]
  simp only [ReadsFrom, Nat.zero_add, Option.or_none]
  constructor
  · intro h
    obtain ⟨before, after, rest, hs, hoffset, hv⟩ := h
    exact ⟨before, rest, hoffset, after, hs, hv⟩
  · intro h
    obtain ⟨before, rest, hoffset, after, hs, hv⟩ := h
    exact ⟨before, after, rest, hs, hoffset, hv⟩

/-! ## 2. Readers that are not told the character before -/

/-- Whatever the reader takes begins with `first`, which does not stand in it again. -/
def BeginsWith (first : Char) (read : Text → Option (α × Text)) : Prop :=
  ∀ s a rest, read s = some (a, rest) → ∃ w, s = first :: (w ++ rest) ∧ first ∉ w

theorem BeginsWith.startsApart {first : Char} {read : Text → Option (α × Text)}
    (h : BeginsWith first read) : StartsApart (· == first) fun _ s => read s := by
  intro _ s a rest hs
  obtain ⟨w, rfl, hw⟩ := h s a rest hs
  refine ⟨first, w, rfl, beq_self_eq_true first, fun d hd => ?_⟩
  rw [beq_iff_eq]
  rintro rfl
  exact hw hd

theorem exists_of_mem_matchesOf {read : Text → Option (α × Text)} {s : Text} {m : Match α}
    (h : m ∈ matchesOf (fun _ t => read t) s) :
    ∃ before after rest, s = before ++ after ∧ m.offset = before.length
      ∧ read after = some (m.value, rest) := by
  have hreads := readsFrom_of_mem_matchesFrom h
  simpa only [ReadsFrom, Nat.zero_add] using hreads

theorem mem_matchesOf {first : Char} {read : Text → Option (α × Text)}
    (hread : BeginsWith first read) (s : Text) (m : Match α) :
    m ∈ matchesOf (fun _ t => read t) s
      ↔ ∃ before after rest, s = before ++ after ∧ m.offset = before.length
          ∧ read after = some (m.value, rest) := by
  unfold matchesOf
  rw [mem_matchesFrom_iff_readsFrom hread.startsApart (by simp)]
  simp only [ReadsFrom, Nat.zero_add]

/-! ## 3. Their order -/

theorem pairwise_matchesFrom (read : Option Char → Text → Option (α × Text)) (offset skip : Nat)
    (before : Option Char) (s : Text) :
    (matchesFrom read offset skip before s).Pairwise (fun m n => m.offset < n.offset)
      ∧ ∀ m ∈ matchesFrom read offset skip before s, offset ≤ m.offset := by
  fun_induction matchesFrom read offset skip before s with
  | case1 => exact ⟨List.Pairwise.nil, fun _ hm => absurd hm List.not_mem_nil⟩
  | case2 _ _ _ _ _ ih => exact ⟨ih.1, fun m hm => Nat.le_of_succ_le (ih.2 m hm)⟩
  | case3 _ _ _ _ _ ih => exact ⟨ih.1, fun m hm => Nat.le_of_succ_le (ih.2 m hm)⟩
  | case4 offset _ _ _ _ _ _ ih =>
    refine ⟨List.Pairwise.cons (fun m hm => ih.2 m hm) ih.1, ?_⟩
    intro m hm
    rcases List.mem_cons.mp hm with rfl | hm
    · exact Nat.le_refl offset
    · exact Nat.le_of_succ_le (ih.2 m hm)

theorem pairwise_matchesOf (read : Option Char → Text → Option (α × Text)) (s : Text) :
    (matchesOf read s).Pairwise fun m n => m.offset < n.offset :=
  (pairwise_matchesFrom read 0 0 none s).1

/-- The first success with a property is the one before which none has it. -/
theorem find?_matchesOf_eq_some {read : Option Char → Text → Option (α × Text)} {s : Text}
    {p : Match α → Bool} {m : Match α} (hm : m ∈ matchesOf read s) (hp : p m)
    (hfirst : ∀ n ∈ matchesOf read s, p n → m.offset ≤ n.offset) :
    (matchesOf read s).find? p = some m := by
  obtain ⟨front, back, hs⟩ := List.append_of_mem hm
  rw [List.find?_eq_some_iff_append]
  refine ⟨hp, front, back, hs, fun n hn => ?_⟩
  have hordered := pairwise_matchesOf read s
  rw [hs, List.pairwise_append] at hordered
  have hlt : n.offset < m.offset := hordered.2.2 n hn m List.mem_cons_self
  rw [Bool.not_eq_true']
  apply Bool.eq_false_iff.mpr
  intro hpn
  have hle := hfirst n (hs ▸ List.mem_append_left _ hn) hpn
  omega

/-! ## 4. Their values -/

/-- The values of the successes in a text that `before` stands in front of. -/
def valuesAfter (read : Option Char → Text → Option (α × Text)) (before : Option Char)
    (s : Text) : List α :=
  (matchesFrom read 0 0 before s).map (·.value)

section

variable {read : Option Char → Text → Option (α × Text)} {before : Option Char}

/-- The values depend on the character before only as far as the reader does at the first place,
and on the offset not at all. -/
theorem map_value_matchesFrom (offset offset' skip : Nat) {before' : Option Char}
    (hbefore : ∀ t, read before t = read before' t) (s : Text) :
    (matchesFrom read offset skip before s).map (·.value)
      = (matchesFrom read offset' skip before' s).map (·.value) := by
  induction s generalizing offset offset' skip before before' with
  | nil => rw [matchesFrom, matchesFrom]
  | cons c s ih =>
    cases skip with
    | succ skip =>
      rw [matchesFrom, matchesFrom]
      exact ih _ _ _ fun _ => rfl
    | zero =>
      rw [matchesFrom, matchesFrom, hbefore]
      cases read before' (c :: s) with
      | none => exact ih _ _ _ fun _ => rfl
      | some found =>
        rw [List.map_cons, List.map_cons]
        exact congrArg (found.1 :: ·) (ih _ _ _ fun _ => rfl)

theorem map_value_matchesFrom_append (offset : Nat) (w s : Text) :
    (matchesFrom read offset w.length before (w ++ s)).map (·.value)
      = valuesAfter read (w.getLast?.or before) s := by
  induction w generalizing offset before with
  | nil => exact map_value_matchesFrom offset 0 0 (fun _ => rfl) s
  | cons c w ih =>
    rw [List.length_cons, List.cons_append, matchesFrom, getLast?_cons_or]
    exact ih _

theorem valuesAfter_of_none {c : Char} {s : Text} (h : read before (c :: s) = none) :
    valuesAfter read before (c :: s) = valuesAfter read (some c) s := by
  unfold valuesAfter
  rw [matchesFrom, h]
  exact map_value_matchesFrom _ _ _ (fun _ => rfl) s

/-- What the reader takes is passed over. -/
theorem valuesAfter_of_some {w rest : Text} {a : α} (hw : w ≠ [])
    (h : read before (w ++ rest) = some (a, rest)) :
    valuesAfter read before (w ++ rest) = a :: valuesAfter read w.getLast? rest := by
  cases w with
  | nil => exact absurd rfl hw
  | cons c w =>
    have hskip : (w ++ rest).length - rest.length = w.length := by
      rw [List.length_append, Nat.add_sub_cancel]
    rw [List.cons_append] at h
    rw [List.cons_append, valuesAfter, matchesFrom, h]
    dsimp only
    rw [hskip, List.map_cons, map_value_matchesFrom_append, ← getLast?_cons_or before,
      List.getLast?_cons, Option.some_or]

end

/-- A reader that is not told the character before finds the same wherever the text begins. -/
theorem valuesAfter_eq_matchesOf (read : Text → Option (α × Text)) (before : Option Char)
    (s : Text) :
    valuesAfter (fun _ t => read t) before s
      = (matchesOf (fun _ t => read t) s).map (·.value) := by
  apply map_value_matchesFrom
  intro t
  rfl

theorem map_value_matchesOf_cons_of_none {read : Text → Option (α × Text)} {c : Char} {s : Text}
    (h : read (c :: s) = none) :
    (matchesOf (fun _ t => read t) (c :: s)).map (·.value)
      = (matchesOf (fun _ t => read t) s).map (·.value) := by
  rw [← valuesAfter_eq_matchesOf read none, valuesAfter_of_none h, valuesAfter_eq_matchesOf]

theorem map_value_matchesOf_cons_of_some {read : Text → Option (α × Text)} {c : Char}
    {w rest : Text} {a : α} (h : read (c :: (w ++ rest)) = some (a, rest)) :
    (matchesOf (fun _ t => read t) (c :: (w ++ rest))).map (·.value)
      = a :: (matchesOf (fun _ t => read t) rest).map (·.value) := by
  rw [← valuesAfter_eq_matchesOf read none, ← List.cons_append,
    valuesAfter_of_some (List.cons_ne_nil c w) h, valuesAfter_eq_matchesOf]

end EnvAudit.Text
