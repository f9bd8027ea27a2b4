import Mathlib.Algebra.BigOperators.Group.List.Lemmas
import EnvAudit.Text.Basic

/-!
# First occurrences

`firsts` keeps the first occurrence of each element.  What it lists is ordered by the place of that
first occurrence (`pairwise_idxOf_firsts`), and the occurrences of all that it lists add up to the
length of the list (`totalWeight_count_firsts`).
-/

namespace EnvAudit

variable {α : Type} [DecidableEq α]

/-! ## 1. The order of first occurrence -/

theorem firsts_append_of_not_mem {xs : List α} {a : α} (h : a ∉ xs) :
    firsts (xs ++ [a]) = firsts xs ++ [a] := by
  induction xs with
  | nil => rfl
  | cons x xs ih =>
    rw [List.mem_cons, not_or] at h
    rw [List.cons_append, firsts, firsts, ih h.2, List.filter_append, List.filter_singleton,
      decide_eq_true h.1]
    rfl

theorem firsts_append_of_mem {xs : List α} {a : α} (h : a ∈ xs) :
    firsts (xs ++ [a]) = firsts xs := by
  induction xs with
  | nil => cases h
  | cons x xs ih =>
    rw [List.cons_append, firsts, firsts]
    by_cases ha : a ∈ xs
    · rw [ih ha]
    · -- the new occurrence is one more of `x`, and is dropped with the others
      rcases (List.mem_cons.mp h).resolve_right ha with rfl
      rw [firsts_append_of_not_mem ha, List.filter_append]
      simp

theorem firsts_append_of_disjoint {xs ys : List α} (hys : ys.Nodup)
    (hnew : ∀ y ∈ ys, y ∉ xs) : firsts (xs ++ ys) = firsts xs ++ ys := by
  induction ys generalizing xs with
  | nil => rw [List.append_nil, List.append_nil]
  | cons y ys ih =>
    rw [List.nodup_cons] at hys
    rw [List.forall_mem_cons] at hnew
    have hlater : ∀ z ∈ ys, z ∉ xs ++ [y] := by
      intro z hz
      have hne : z ≠ y := fun heq => hys.1 (heq ▸ hz)
      simp [hnew.2 z hz, hne]
    rw [← List.singleton_append, ← List.append_assoc, ih hys.2 hlater,
      firsts_append_of_not_mem hnew.1, List.append_assoc]

theorem firsts_map {β : Type} [DecidableEq β] {f : α → β} (hf : Function.Injective f)
    (xs : List α) : firsts (xs.map f) = (firsts xs).map f := by
  induction xs with
  | nil => rfl
  | cons x xs ih =>
    rw [List.map_cons, firsts, firsts, ih, List.map_cons, List.filter_map]
    congr 2
    apply List.filter_congr
    intro b _
    simp [hf.eq_iff]

theorem contains_firsts [BEq α] [LawfulBEq α] (xs : List α) :
    (firsts xs).contains = xs.contains := by
  funext a
  rw [Bool.eq_iff_iff, List.contains_iff_mem, List.contains_iff_mem, mem_firsts]

/-- What occurs first earlier is listed earlier. -/
theorem pairwise_idxOf_firsts [BEq α] [LawfulBEq α] (xs : List α) :
    (firsts xs).Pairwise fun a b => xs.idxOf a < xs.idxOf b := by
  induction xs with
  | nil => exact List.Pairwise.nil
  | cons x xs ih =>
    have hother {b : α} (hb : b ∈ (firsts xs).filter fun b => decide (b ≠ x)) :
        (x :: xs).idxOf b = xs.idxOf b + 1 :=
      List.idxOf_cons_ne xs (Ne.symm (of_decide_eq_true (List.mem_filter.mp hb).2))
    rw [firsts, List.pairwise_cons]
    constructor
    · intro b hb
      rw [List.idxOf_cons_self, hother hb]
      exact Nat.succ_pos _
    · refine (ih.filter _).imp_of_mem fun ha hb hlt => ?_
      rw [hother ha, hother hb]
      exact Nat.succ_lt_succ hlt

/-- Of two elements the one that occurs first comes first among the different elements. -/
theorem pair_sublist_firsts_iff [BEq α] [LawfulBEq α] {xs : List α} {a b : α} :
    [a, b].Sublist (firsts xs) ↔ a ∈ xs ∧ b ∈ xs ∧ xs.idxOf a < xs.idxOf b := by
  have horder {a b : α} (h : [a, b].Sublist (firsts xs)) : xs.idxOf a < xs.idxOf b :=
    List.pairwise_iff_forall_sublist.mp (pairwise_idxOf_firsts xs) h
  constructor
  · intro h
    have ha : a ∈ firsts xs := h.subset List.mem_cons_self
    have hb : b ∈ firsts xs := h.subset (List.mem_cons_of_mem a List.mem_cons_self)
    exact ⟨mem_firsts.mp ha, mem_firsts.mp hb, horder h⟩
  · rintro ⟨ha, hb, hlt⟩
    obtain ⟨before, after, hsplit⟩ := List.append_of_mem (mem_firsts.mpr ha)
    have hb' := mem_firsts.mpr hb
    rw [hsplit, List.mem_append, List.mem_cons] at hb'
    rcases hb' with hbefore | rfl | hafter
    · -- then it is the other way round
      have hswapped : [b, a].Sublist (firsts xs) := by
        rw [hsplit]
        exact (List.singleton_sublist.mpr hbefore).append (by simp)
      exact absurd (horder hswapped) (Nat.lt_asymm hlt)
    · exact absurd hlt (Nat.lt_irrefl _)
    · rw [hsplit]
      exact ((List.singleton_sublist.mpr hafter).cons_cons a).trans (List.sublist_append_right _ _)

/-! ## 2. Sums over the different elements -/

theorem firsts_perm_dedup (xs : List α) : (firsts xs).Perm xs.dedup := by
  rw [List.perm_ext_iff_of_nodup (nodup_firsts xs) xs.nodup_dedup]
  intro a
  rw [mem_firsts, List.mem_dedup]

/-- Each element is counted once for each of its occurrences. -/
theorem totalWeight_count_firsts [eq : BEq α] [LawfulBEq α] (xs : List α) :
    totalWeight xs.count (firsts xs) = xs.length := by
  have hsum : ∀ as : List α, totalWeight xs.count as = (as.map xs.count).sum := by
    intro as
    induction as with
    | nil => rfl
    | cons a as ih => rw [totalWeight, ih, List.map_cons, List.sum_cons]
  -- the library counts by the equality that is decided
  have heq : eq = instBEqOfDecidableEq := lawful_beq_subsingleton _ _
  subst heq
  rw [hsum, ((firsts_perm_dedup xs).map _).sum_eq]
  exact xs.sum_map_count_dedup_eq_length

end EnvAudit
