import Mathlib.Data.Char
import Mathlib.Data.List.Lex
import Mathlib.Data.Nat.Choose.Basic
import EnvAudit.Proofs.Filter.Checks
import EnvAudit.Proofs.Text.Firsts

/-!
# Pairs of names that look alike

Names are warned about in pairs, and a list of names may have any of them several times.  The
warnings are about the different names only, each pair once and its earlier name first:
`mem_lookAlikes` says which warnings there are and `pairwise_lookAlikes` in which order.  A walk over
all pairs of places that notes the pairs it has met finds the same (`walkPairs_eq`).
-/

namespace EnvAudit

/-! ## 1. Pairs of a list -/

section

variable {α : Type} {xs : List α}

theorem mem_pairsInOrder {p : α × α} : p ∈ pairsInOrder xs ↔ [p.1, p.2].Sublist xs := by
  obtain ⟨a, b⟩ := p
  induction xs with
  | nil => simp [pairsInOrder]
  | cons x xs ih =>
    rw [pairsInOrder, List.mem_append, ih, List.sublist_cons_iff, or_comm]
    refine or_congr_right ?_
    simp [and_comm, eq_comm]

/-- Pairs are listed by their first element, and by their second where the first is the same. -/
theorem pairwise_pairsInOrder {R : α → α → Prop} (h : xs.Pairwise R) :
    (pairsInOrder xs).Pairwise fun p q => R p.1 q.1 ∨ p.1 = q.1 ∧ R p.2 q.2 := by
  induction xs with
  | nil => exact List.Pairwise.nil
  | cons x xs ih =>
    rw [List.pairwise_cons] at h
    rw [pairsInOrder, List.pairwise_append, List.pairwise_map]
    refine ⟨h.2.imp fun hab => Or.inr ⟨rfl, hab⟩, ih h.2, ?_⟩
    rintro _ hp q hq
    obtain ⟨b, -, rfl⟩ := List.mem_map.mp hp
    have hmem : q.1 ∈ xs := (mem_pairsInOrder.mp hq).subset List.mem_cons_self
    exact Or.inl (h.1 q.1 hmem)

theorem length_pairsInOrder (xs : List α) : (pairsInOrder xs).length = xs.length.choose 2 := by
  induction xs with
  | nil => rfl
  | cons x xs ih =>
    rw [pairsInOrder, List.length_append, List.length_map, ih, List.length_cons,
      Nat.choose_succ_succ, Nat.choose_one_right]

end

/-! ## 2. The warnings -/

theorem lookAlike?_eq_some {pair : Text × Text} {w : LookAlike} :
    lookAlike? pair = some w
      ↔ plainName pair.1 = plainName pair.2 ∧ w.key1 = pair.1 ∧ w.key2 = pair.2
        ∧ w.suggestion = if '_' ∈ pair.1 then pair.1 else pair.2 := by
  obtain ⟨key1, key2, suggestion⟩ := w
  simp only [lookAlike?, Option.ite_none_right_eq_some, Option.some.injEq, LookAlike.mk.injEq,
    List.contains_iff_mem]
  rw [eq_comm (a := pair.1) (b := key1), eq_comm (a := pair.2) (b := key2),
    eq_comm (b := suggestion)]

variable {names : List Text}

theorem mem_lookAlikes {w : LookAlike} :
    w ∈ lookAlikes names
      ↔ (w.key1 ∈ names ∧ w.key2 ∈ names ∧ names.idxOf w.key1 < names.idxOf w.key2)
        ∧ plainName w.key1 = plainName w.key2
        ∧ w.suggestion = if '_' ∈ w.key1 then w.key1 else w.key2 := by
  rw [← pair_sublist_firsts_iff]
  simp only [lookAlikes, List.mem_filterMap, mem_pairsInOrder, lookAlike?_eq_some]
  constructor
  · rintro ⟨⟨a, b⟩, hpair, hplain, ha, hb, hsuggestion⟩
    rw [ha, hb]
    exact ⟨hpair, hplain, hsuggestion⟩
  · rintro ⟨hpair, hplain, hsuggestion⟩
    exact ⟨(w.key1, w.key2), hpair, hplain, rfl, rfl, hsuggestion⟩

/-- The first name of a warning occurs earlier than that of the other; for the same first name, the
second does. -/
def LookAlike.ComesBefore (names : List Text) (w w' : LookAlike) : Prop :=
  names.idxOf w.key1 < names.idxOf w'.key1
    ∨ w.key1 = w'.key1 ∧ names.idxOf w.key2 < names.idxOf w'.key2

theorem LookAlike.not_comesBefore_self (names : List Text) (w : LookAlike) :
    ¬ w.ComesBefore names w := by
  rintro (h | ⟨-, h⟩) <;> exact Nat.lt_irrefl _ h

theorem pairwise_lookAlikes (names : List Text) :
    (lookAlikes names).Pairwise (LookAlike.ComesBefore names) := by
  unfold lookAlikes
  rw [List.pairwise_filterMap]
  refine (pairwise_pairsInOrder (pairwise_idxOf_firsts names)).imp ?_
  intro pair pair' hbefore w hw w' hw'
  unfold LookAlike.ComesBefore
  rw [(lookAlike?_keys hw).1, (lookAlike?_keys hw).2, (lookAlike?_keys hw').1,
    (lookAlike?_keys hw').2]
  exact hbefore

theorem nodup_lookAlikes (names : List Text) : (lookAlikes names).Nodup := by
  refine (pairwise_lookAlikes names).imp ?_
  rintro w w' hbefore rfl
  exact LookAlike.not_comesBefore_self names w hbefore

/-- The warning is about these two names. -/
def LookAlike.IsAbout (a b : Text) (w : LookAlike) : Prop :=
  w.key1 = a ∧ w.key2 = b ∨ w.key1 = b ∧ w.key2 = a

instance (a b : Text) : DecidablePred (LookAlike.IsAbout a b) :=
  fun _ => inferInstanceAs (Decidable (_ ∨ _))

theorem countP_isAbout_of_lt {a b : Text} (ha : a ∈ names) (hb : b ∈ names)
    (hlt : names.idxOf a < names.idxOf b) (hplain : plainName a = plainName b) :
    (lookAlikes names).countP (fun w => decide (w.IsAbout a b)) = 1 := by
  have hmem : ⟨a, b, if '_' ∈ a then a else b⟩ ∈ lookAlikes names :=
    mem_lookAlikes.mpr ⟨⟨ha, hb, hlt⟩, hplain, rfl⟩
  rw [← List.count_eq_one_of_mem (nodup_lookAlikes names) hmem, List.count]
  refine List.countP_congr fun w hw => ?_
  rw [decide_eq_true_eq, beq_iff_eq]
  obtain ⟨⟨-, -, hlt'⟩, -, hsuggestion⟩ := mem_lookAlikes.mp hw
  constructor
  · intro h
    obtain ⟨key1, key2, suggestion⟩ := w
    obtain ⟨rfl, rfl⟩ | ⟨rfl, rfl⟩ := h
    · exact congrArg _ hsuggestion
    · exact absurd hlt (Nat.lt_asymm hlt')
  · intro h
    rw [h]
    exact Or.inl ⟨rfl, rfl⟩

theorem LookAlike.isAbout_comm {a b : Text} {w : LookAlike} : w.IsAbout a b ↔ w.IsAbout b a :=
  or_comm

/-- There is one warning for two different names that look alike. -/
theorem countP_isAbout {a b : Text} (ha : a ∈ names) (hb : b ∈ names) (hne : a ≠ b)
    (hplain : plainName a = plainName b) :
    (lookAlikes names).countP (fun w => decide (w.IsAbout a b)) = 1 := by
  have hplaces : names.idxOf a ≠ names.idxOf b := fun h => hne ((List.idxOf_inj ha).mp h)
  obtain hlt | hgt := Nat.lt_or_gt_of_ne hplaces
  · exact countP_isAbout_of_lt ha hb hlt hplain
  · simp only [LookAlike.isAbout_comm (a := a)]
    exact countP_isAbout_of_lt hb ha hgt hplain.symm

/-! ## 3. Groups of names -/

theorem length_lookAlikes_of_forall {p : Text} (h : ∀ n ∈ names, plainName n = p) :
    (lookAlikes names).length = (firsts names).length.choose 2 := by
  have hall : ∀ pair ∈ pairsInOrder (firsts names),
      lookAlike? pair
        = some ⟨pair.1, pair.2, if pair.1.contains '_' then pair.1 else pair.2⟩ := by
    intro pair hpair
    have hsub := (mem_pairsInOrder.mp hpair).subset
    have h1 := h pair.1 (mem_firsts.mp (hsub List.mem_cons_self))
    have h2 := h pair.2 (mem_firsts.mp (hsub (List.mem_cons_of_mem _ List.mem_cons_self)))
    exact if_pos (h1.trans h2.symm)
  rw [lookAlikes, List.filterMap_congr hall, List.filterMap_eq_map', List.length_map,
    length_pairsInOrder]

/-- A group of names that look alike gives a warning for each two different names in it. -/
theorem length_filter_lookAlikes (names : List Text) (p : Text) :
    ((lookAlikes names).filter fun w => plainName w.key1 = p).length
      = (firsts (names.filter fun n => plainName n = p)).length.choose 2 := by
  have hgroup : ((lookAlikes names).filter fun w => plainName w.key1 = p)
      = lookAlikes (names.filter fun n => plainName n = p) := by
    rw [lookAlikes_filter]
    refine List.filter_congr fun w hw => ?_
    rw [← (mem_lookAlikes.mp hw).2.1, Bool.and_self]
  rw [hgroup]
  exact length_lookAlikes_of_forall fun n hn => of_decide_eq_true (List.mem_filter.mp hn).2

/-! ## 4. A walk over all pairs -/

section

variable {done : List Text} {a : Text}

theorem filter_cons_not_mem_of_mem (rest : List Text) (h : a ∈ done) :
    (a :: rest).filter (fun n => n ∉ done) = rest.filter fun n => n ∉ done ++ [a] := by
  rw [List.filter_cons_of_neg (by simpa using h)]
  apply List.filter_congr
  intro n _
  have hlast : n = a → n ∈ done := fun heq => heq ▸ h
  simp only [List.mem_append, List.mem_singleton, or_iff_left_of_imp hlast]

theorem firsts_cons_not_mem_of_not_mem (rest : List Text) (h : a ∉ done) :
    firsts ((a :: rest).filter fun n => n ∉ done)
      = a :: firsts (rest.filter fun n => n ∉ done ++ [a]) := by
  rw [List.filter_cons_of_pos (by simpa using h), firsts, ← firsts_filter, List.filter_filter]
  congr 2
  apply List.filter_congr
  intro n _
  simp only [List.mem_append, List.mem_singleton, not_or, and_comm, Bool.decide_and]

end

/-- The two names of a pair, the smaller first. -/
def sortedPair (a b : Text) : Text × Text := if a < b then (a, b) else (b, a)

theorem sortedPair_comm (a b : Text) : sortedPair a b = sortedPair b a := by
  unfold sortedPair
  obtain hlt | rfl | hgt := lt_trichotomy a b
  · rw [if_pos hlt, if_neg (lt_asymm hlt)]
  · rfl
  · rw [if_neg (lt_asymm hgt), if_pos hgt]

theorem sortedPair_eq_iff {a b c d : Text} :
    sortedPair a b = sortedPair c d ↔ a = c ∧ b = d ∨ a = d ∧ b = c := by
  constructor
  · intro h
    unfold sortedPair at h
    split at h <;> split at h <;> cases h <;> simp
  · rintro (⟨rfl, rfl⟩ | ⟨rfl, rfl⟩)
    · rfl
    · exact sortedPair_comm a b

theorem sortedPair_right_inj {a b c : Text} : sortedPair a b = sortedPair a c ↔ b = c := by
  rw [sortedPair_eq_iff]
  constructor
  · rintro (⟨-, rfl⟩ | ⟨rfl, rfl⟩) <;> rfl
  · rintro rfl
    exact Or.inl ⟨rfl, rfl⟩

/-- The pairs that a walk has met and the warnings it has found so far. -/
structure PairWalk where
  visited : List (Text × Text)
  warnings : List LookAlike

namespace PairWalk

/-- Two names that differ and have not met in either order. -/
def isNew (walk : PairWalk) (a b : Text) : Bool :=
  decide (a ≠ b ∧ sortedPair a b ∉ walk.visited)

def visit (a : Text) (walk : PairWalk) (b : Text) : PairWalk :=
  if walk.isNew a b then
    ⟨sortedPair a b :: walk.visited, walk.warnings ++ (lookAlike? (a, b)).toList⟩
  else walk

/-- Looks at a name with each name of a list. -/
def visitAll (names : List Text) (walk : PairWalk) (a : Text) : PairWalk :=
  names.foldl (visit a) walk

variable {walk : PairWalk} {a b c d : Text}

theorem isNew_visit :
    (walk.visit a b).isNew c d ↔ walk.isNew c d ∧ sortedPair c d ≠ sortedPair a b := by
  unfold visit
  split
  next h =>
    simp only [isNew, List.mem_cons, not_or, decide_eq_true_eq]
    tauto
  next h =>
    -- what has met cannot meet again
    refine iff_self_and.mpr fun hnew heq => h ?_
    rw [isNew, decide_eq_true_eq] at hnew ⊢
    refine ⟨?_, heq ▸ hnew.2⟩
    rintro rfl
    obtain ⟨rfl, rfl⟩ | ⟨rfl, rfl⟩ := sortedPair_eq_iff.mp heq <;> exact hnew.1 rfl

theorem isNew_visitAll {names : List Text} :
    (walk.visitAll names a).isNew c d
      ↔ walk.isNew c d ∧ ∀ b ∈ names, sortedPair c d ≠ sortedPair a b := by
  unfold visitAll
  induction names generalizing walk with
  | nil => simp
  | cons b names ih => rw [List.foldl_cons, ih, isNew_visit, List.forall_mem_cons, and_assoc]

/-- A name is looked at with the different names of the list that it has not met. -/
theorem warnings_visitAll (names : List Text) (walk : PairWalk) (a : Text) :
    (walk.visitAll names a).warnings
      = walk.warnings
        ++ ((firsts names).filter (walk.isNew a)).filterMap fun b => lookAlike? (a, b) := by
  unfold visitAll
  induction names generalizing walk with
  | nil => exact (List.append_nil _).symm
  | cons b names ih =>
    have hlater : ((firsts names).filter fun c => decide (c ≠ b)).filter (walk.isNew a)
        = (firsts names).filter ((walk.visit a b).isNew a) := by
      rw [List.filter_filter]
      apply List.filter_congr
      intro c _
      rw [Bool.eq_iff_iff, isNew_visit, Bool.and_eq_true, decide_eq_true_eq, ne_eq, ne_eq,
        sortedPair_right_inj]
    rw [List.foldl_cons, ih, firsts, List.filter_cons, hlater, visit]
    split
    next h =>
      rw [List.append_assoc, List.filterMap_cons]
      cases lookAlike? (a, b) <;> rfl
    next h => rfl

/-- The names that have met all others are just those of `done`. -/
def HasMet (names done : List Text) (walk : PairWalk) : Prop :=
  ∀ b ∈ names, ∀ c ∈ names, (walk.isNew b c ↔ b ≠ c ∧ b ∉ done ∧ c ∉ done)

section

variable {names done rest : List Text}

theorem HasMet.visitAll (h : walk.HasMet names done) (a : Text) :
    (walk.visitAll names a).HasMet names (done ++ [a]) := by
  intro b hb c hc
  have hmet : (∀ d ∈ names, sortedPair b c ≠ sortedPair a d) ↔ b ≠ a ∧ c ≠ a := by
    simp only [ne_eq, sortedPair_eq_iff]
    constructor
    · intro h
      exact ⟨fun heq => h c hc (Or.inl ⟨heq, rfl⟩), fun heq => h b hb (Or.inr ⟨rfl, heq⟩)⟩
    · rintro ⟨hba, hca⟩ d - (⟨heq, -⟩ | ⟨-, heq⟩)
      · exact hba heq
      · exact hca heq
  rw [isNew_visitAll, h b hb c hc, hmet]
  simp only [List.mem_append, List.mem_singleton, not_or]
  tauto

/-- The next name is looked at with the names after it that are different. -/
theorem HasMet.filter_isNew (h : walk.HasMet names done) (hnames : names = done ++ [a] ++ rest)
    (hdone : a ∉ done) :
    (firsts names).filter (walk.isNew a) = firsts (rest.filter fun n => n ∉ done ++ [a]) := by
  have ha : a ∈ names := by simp [hnames]
  have hearlier : (done ++ [a]).filter (walk.isNew a) = [] := by
    rw [List.filter_eq_nil_iff]
    intro c hc hnew
    obtain ⟨hne, -, hnot⟩ := (h a ha c (hnames ▸ List.mem_append_left _ hc)).mp hnew
    simp only [List.mem_append, List.mem_singleton, hnot, false_or] at hc
    exact hne hc.symm
  have hlater : rest.filter (walk.isNew a) = rest.filter fun n => n ∉ done ++ [a] := by
    apply List.filter_congr
    intro c hc
    rw [Bool.eq_iff_iff, h a ha c (hnames ▸ List.mem_append_right _ hc), decide_eq_true_eq]
    simp only [List.mem_append, List.mem_singleton, not_or, hdone]
    tauto
  rw [← firsts_filter, hnames, List.filter_append, hearlier, hlater, List.nil_append]

/-- The walk over the rest of the names finds the pairs of those that have not met the others. -/
theorem warnings_foldl_visitAll (hnames : names = done ++ rest) (h : walk.HasMet names done) :
    (rest.foldl (visitAll names) walk).warnings
      = walk.warnings
        ++ (pairsInOrder (firsts (rest.filter fun n => n ∉ done))).filterMap lookAlike? := by
  induction rest generalizing done walk with
  | nil => exact (List.append_nil _).symm
  | cons a rest ih =>
    have hsplit : names = done ++ [a] ++ rest := by
      rw [hnames, List.append_assoc, List.singleton_append]
    have hrow : ((firsts names).filter (walk.isNew a)).filterMap (fun b => lookAlike? (a, b))
          ++ (pairsInOrder (firsts (rest.filter fun n => n ∉ done ++ [a]))).filterMap lookAlike?
        = (pairsInOrder (firsts ((a :: rest).filter fun n => n ∉ done))).filterMap lookAlike? := by
      by_cases hdone : a ∈ done
      · have hnone : (firsts names).filter (walk.isNew a) = [] := by
          rw [List.filter_eq_nil_iff]
          intro b hb hnew
          have ha : a ∈ names := hnames ▸ List.mem_append_cons_self
          exact ((h a ha b (mem_firsts.mp hb)).mp hnew).2.1 hdone
        rw [hnone, filter_cons_not_mem_of_mem rest hdone]
        rfl
      · rw [h.filter_isNew hsplit hdone, firsts_cons_not_mem_of_not_mem rest hdone, pairsInOrder,
          List.filterMap_append, List.filterMap_map]
        rfl
    rw [List.foldl_cons, ih hsplit (h.visitAll a), warnings_visitAll, List.append_assoc, hrow]

end

end PairWalk

/-- The warnings of a walk over all pairs of places; two places of one name, or a place and itself,
are passed over. -/
def walkPairs (names : List Text) : List LookAlike :=
  (names.foldl (PairWalk.visitAll names) ⟨[], []⟩).warnings

theorem walkPairs_eq (names : List Text) : walkPairs names = lookAlikes names := by
  have hstart : (⟨[], []⟩ : PairWalk).HasMet names [] := by
    simp [PairWalk.HasMet, PairWalk.isNew]
  have hall : names.filter (fun n => n ∉ []) = names := by simp
  unfold walkPairs
  rw [PairWalk.warnings_foldl_visitAll (List.nil_append names).symm hstart, hall]
  rfl

/-- The look-alikes among names are one for each two different names that are the same but for
underscores and letter case, told by the place where each occurs first; a group of `m` such names
gives `m (m - 1) / 2`. -/
theorem lookAlikes_one_per_pair (names : List Text) :
    (∀ w : LookAlike, w ∈ lookAlikes names
        ↔ (w.key1 ∈ names ∧ w.key2 ∈ names ∧ names.idxOf w.key1 < names.idxOf w.key2)
          ∧ plainName w.key1 = plainName w.key2
          ∧ w.suggestion = if '_' ∈ w.key1 then w.key1 else w.key2)
      ∧ (∀ a ∈ names, ∀ b ∈ names, a ≠ b → plainName a = plainName b →
          (lookAlikes names).countP (fun w => decide (w.IsAbout a b)) = 1)
      ∧ (lookAlikes names).Pairwise (LookAlike.ComesBefore names)
      ∧ (∀ p : Text,
          let m := (names.filter fun n => plainName n = p).dedup.length
          ((lookAlikes names).filter fun w => plainName w.key1 = p).length = m * (m - 1) / 2)
      ∧ walkPairs names = lookAlikes names := by
  refine ⟨fun w => mem_lookAlikes, ?_, pairwise_lookAlikes names, ?_, walkPairs_eq names⟩
  · intro a ha b hb hne hplain
    exact countP_isAbout ha hb hne hplain
  · intro p m
    rw [length_filter_lookAlikes, (firsts_perm_dedup _).length_eq, Nat.choose_two_right]

end EnvAudit
