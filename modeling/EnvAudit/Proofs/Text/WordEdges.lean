import EnvAudit.Proofs.Env.AnnotationText
import EnvAudit.Unicode.Derived

/-!
# Words and white space

No white space is part of a word (`isWordChar_of_isBlank`), so a word begins behind white space and
ends before it.  Word characters are a union of tables of the Unicode standard: what a union holds
is in one of its parts, and each run of the tables lies between two stretches of white space.
-/

namespace EnvAudit

namespace CharSet

/-! ## 1. The code points of a union -/

/-- The code point lies in the range. -/
def InRange (r : Nat × Nat) (n : Nat) : Prop := r.1 ≤ n ∧ n ≤ r.2

variable {n : Nat}

theorem hasCode_iff {s : CharSet} : s.hasCode n ↔ ∃ r ∈ s.ranges, InRange r n := by
  simp [hasCode, InRange]

/-- Ranges that are made one hold nothing that none of them held. -/
theorem exists_inRange_of_joinFrom {lo hi : Nat} {rs : List (Nat × Nat)}
    (h : ∃ r ∈ joinFrom lo hi rs, InRange r n) : ∃ r ∈ (lo, hi) :: rs, InRange r n := by
  fun_induction joinFrom lo hi rs with
  | case1 lo hi => exact h
  | case2 lo hi lo' hi' rs htouch ih =>
    obtain ⟨r, hr, hn⟩ := ih h
    rcases List.mem_cons.mp hr with rfl | hr
    · -- the ranges touch: what lies behind the end of the first is in the second
      by_cases hle : n ≤ hi
      · exact ⟨(lo, hi), List.mem_cons_self, hn.1, hle⟩
      · have hsecond : InRange (lo', hi') n := by
          unfold InRange at hn ⊢
          omega
        exact ⟨(lo', hi'), List.mem_cons_of_mem _ List.mem_cons_self, hsecond⟩
    · exact ⟨r, List.mem_cons_of_mem _ (List.mem_cons_of_mem _ hr), hn⟩
  | case3 lo hi lo' hi' rs hapart ih =>
    obtain ⟨r, hr, hn⟩ := h
    rcases List.mem_cons.mp hr with rfl | hr
    · exact ⟨(lo, hi), List.mem_cons_self, hn⟩
    · obtain ⟨r', hr', hn'⟩ := ih ⟨r, hr, hn⟩
      exact ⟨r', List.mem_cons_of_mem _ hr', hn'⟩

theorem exists_inRange_of_join {rs : List (Nat × Nat)} (h : (join rs).hasCode n) :
    ∃ r ∈ rs, InRange r n := by
  cases rs with
  | nil => cases h
  | cons r rs => exact exists_inRange_of_joinFrom (hasCode_iff.mp h)

theorem hasCode_or_of_union {s t : CharSet} (h : (union s t).hasCode n) :
    s.hasCode n ∨ t.hasCode n := by
  obtain ⟨r, hr, hn⟩ := exists_inRange_of_join h
  exact (List.mem_merge.mp hr).imp (fun hr => hasCode_iff.mpr ⟨r, hr, hn⟩)
    fun hr => hasCode_iff.mpr ⟨r, hr, hn⟩

/-! ## 2. Sets without white space -/

/-- No white space beyond ASCII is in the set. -/
def SparesBlanks (s : CharSet) : Prop :=
  ∀ c : Char, 128 ≤ c.toNat → isBlank c → ¬ s.hasCode c.toNat

theorem SparesBlanks.union {s t : CharSet} (hs : s.SparesBlanks) (ht : t.SparesBlanks) :
    (union s t).SparesBlanks := by
  intro c hc hblank hcode
  exact (hasCode_or_of_union hcode).elim (hs c hc hblank) (ht c hc hblank)

theorem sparesBlanks_unions {sets : List CharSet} (h : ∀ s ∈ sets, s.SparesBlanks) :
    (unions sets).SparesBlanks := by
  have hfold {s : CharSet} (hs : s.SparesBlanks) : (sets.foldl CharSet.union s).SparesBlanks := by
    induction sets generalizing s with
    | nil => exact hs
    | cons t sets ih =>
      rw [List.forall_mem_cons] at h
      exact ih h.2 (hs.union h.1)
  exact hfold fun c hc hblank => nofun

/-- The run of a table lies between two stretches of the white space beyond ASCII. -/
def isBetweenBlanks (r : Nat × Nat) : Bool :=
  r.2 < 0x85 || (0xA0 < r.1 && r.2 < 0x1680) || (0x1680 < r.1 && r.2 < 0x2000)
    || (0x200A < r.1 && r.2 < 0x2028) || (0x202F < r.1 && r.2 < 0x205F)
    || (0x205F < r.1 && r.2 < 0x3000) || 0x3000 < r.1

theorem sparesBlanks_ofHex {l : List Char}
    (h : ((tableWordsFrom [] l).map readRange).all isBetweenBlanks) :
    (ofHex (String.ofList l)).SparesBlanks := by
  intro c hc hblank hcode
  obtain ⟨r, hr, hn⟩ := hasCode_iff.mp hcode
  rw [ranges_ofHex_ofList] at hr
  have hbetween := List.all_eq_true.mp h r hr
  simp only [isBetweenBlanks, Bool.or_eq_true, Bool.and_eq_true, decide_eq_true_eq] at hbetween
  simp only [isBlank, Bool.or_eq_true, Bool.and_eq_true, decide_eq_true_eq, beq_iff_eq] at hblank
  unfold InRange at hn
  omega

end CharSet

/-! ## 3. Word characters -/

namespace Unicode

open CharSet (SparesBlanks sparesBlanks_unions sparesBlanks_ofHex)

set_option maxRecDepth 100000 in
/-- The tables are gone through one after another: each is large. -/
theorem sparesBlanks_word : word.SparesBlanks := by
  have hlowercase : lowercase.SparesBlanks := by
    apply SparesBlanks.union
    all_goals
      apply sparesBlanks_ofHex
      decide +kernel
  have huppercase : uppercase.SparesBlanks := by
    apply SparesBlanks.union
    all_goals
      apply sparesBlanks_ofHex
      decide +kernel
  have halphabetic : alphabetic.SparesBlanks := by
    apply sparesBlanks_unions
    simp only [List.forall_mem_cons]
    refine ⟨hlowercase, huppercase, ?_, ?_, ?_, ?_, ?_, nofun⟩
    all_goals
      apply sparesBlanks_ofHex
      decide +kernel
  have hmark : mark.SparesBlanks := by
    apply sparesBlanks_unions
    simp only [List.forall_mem_cons]
    refine ⟨?_, ?_, ?_, nofun⟩
    all_goals
      apply sparesBlanks_ofHex
      decide +kernel
  apply sparesBlanks_unions
  simp only [List.forall_mem_cons]
  refine ⟨halphabetic, hmark, ?_, ?_, ?_, nofun⟩
  all_goals
    apply sparesBlanks_ofHex
    decide +kernel

end Unicode

/-- White space is not part of a word. -/
theorem isWordChar_of_isBlank {c : Char} (h : isBlank c) : isWordChar c = false := by
  rw [Bool.eq_false_iff]
  unfold isWordChar
  split
  next =>
    intro hname
    rw [not_isBlank_of_isNameChar hname] at h
    cases h
  next hascii => exact Unicode.sparesBlanks_word c (Nat.le_of_not_lt hascii) h

end EnvAudit
