import Mathlib.Data.List.DropRight
import EnvAudit.Text.Basic

/-!
# Trimmed text

`trim_eq_self_iff` says which texts trimming leaves alone: those with no white space at either end.
A trimmed text is one of them (`trim_trim`).  A text is its trimmed text between white space
(`exists_trim`), and what is put between white space is found again (`trim_append`).
-/

namespace EnvAudit.Text

/-! ## 1. The two ends -/

theorem trimStart_of_head? {s : Text} (h : ∀ c ∈ s.head?, isBlank c = false) :
    trimStart s = s := by
  cases s with
  | nil => rfl
  | cons c s => exact List.dropWhile_cons_of_neg (Bool.eq_false_iff.mp (h c rfl))

theorem trimEnd_of_getLast? {s : Text} (h : ∀ c ∈ s.getLast?, isBlank c = false) :
    trimEnd s = s := by
  show s.rdropWhile isBlank = s
  rw [List.rdropWhile_eq_self_iff]
  intro hne
  exact Bool.eq_false_iff.mp (h _ (List.getLast?_eq_getLast_of_ne_nil hne))

theorem isPrefix_trimEnd (s : Text) : trimEnd s <+: s := List.rdropWhile_prefix isBlank s

theorem mem_of_mem_trim {s : Text} {c : Char} (h : c ∈ trim s) : c ∈ s :=
  (List.dropWhile_suffix isBlank).subset ((isPrefix_trimEnd (trimStart s)).subset h)

/-- Trimming keeps the beginning of a text that has no white space in front. -/
theorem isPrefix_trim {s : Text} (h : ∀ c ∈ s.head?, isBlank c = false) : trim s <+: s := by
  rw [trim, trimStart_of_head? h]
  exact isPrefix_trimEnd s

/-! ## 2. What trimming leaves -/

theorem head?_trim (s : Text) : ∀ c ∈ (trim s).head?, isBlank c = false := by
  intro c hc
  rcases List.head?_eq_some_iff.mp hc with ⟨t, ht⟩
  -- it is the first character that was left at the front
  have hstart : (s.dropWhile isBlank).head? = some c := by
    rcases isPrefix_trimEnd (trimStart s) with ⟨u, hu⟩
    rw [show trimEnd (trimStart s) = c :: t from ht] at hu
    rw [show s.dropWhile isBlank = c :: t ++ u from hu.symm]
    rfl
  have hnot := List.head?_dropWhile_not isBlank s
  rw [hstart] at hnot
  simpa using hnot

theorem getLast?_trim (s : Text) : ∀ c ∈ (trim s).getLast?, isBlank c = false := by
  intro c hc
  have hne : trim s ≠ [] := by
    intro hnil
    rw [hnil] at hc
    cases hc
  rw [List.getLast?_eq_getLast_of_ne_nil hne] at hc
  have hnot := List.rdropWhile_last_not isBlank (trimStart s) hne
  rw [← Option.some.inj hc]
  exact Bool.eq_false_iff.mpr hnot

theorem trim_eq_self_iff {s : Text} :
    trim s = s
      ↔ (∀ c ∈ s.head?, isBlank c = false) ∧ ∀ c ∈ s.getLast?, isBlank c = false := by
  constructor
  · intro h
    have hhead := head?_trim s
    have hlast := getLast?_trim s
    rw [h] at hhead hlast
    exact ⟨hhead, hlast⟩
  · rintro ⟨hhead, hlast⟩
    rw [trim, trimStart_of_head? hhead, trimEnd_of_getLast? hlast]

theorem trim_trim (s : Text) : trim (trim s) = trim s :=
  trim_eq_self_iff.mpr ⟨head?_trim s, getLast?_trim s⟩

/-! ## 3. What trimming takes away -/

/-- The trimmed text with what was taken away at its two ends. -/
theorem exists_trim (s : Text) :
    ∃ front back, s = front ++ (trim s ++ back) ∧ (∀ c ∈ front, isBlank c)
      ∧ ∀ c ∈ back, isBlank c := by
  refine ⟨s.takeWhile isBlank, (trimStart s).rtakeWhile isBlank, ?_,
    fun c => List.mem_takeWhile_imp, fun c hc => List.mem_rtakeWhile_imp hc⟩
  show s = s.takeWhile isBlank ++ ((trimStart s).rdropWhile isBlank
    ++ (trimStart s).rtakeWhile isBlank)
  rw [List.rdropWhile_append_rtakeWhile, trimStart, List.takeWhile_append_dropWhile]

/-- A text that trimming leaves alone is found again between white space. -/
theorem trim_append {front s back : Text} (hne : s ≠ []) (hs : trim s = s)
    (hfront : ∀ c ∈ front, isBlank c) (hback : ∀ c ∈ back, isBlank c) :
    trim (front ++ (s ++ back)) = s := by
  obtain ⟨hhead, hlast⟩ := trim_eq_self_iff.mp hs
  have hstart : trimStart (front ++ (s ++ back)) = s ++ back := by
    rw [trimStart, List.dropWhile_append_of_pos hfront]
    apply trimStart_of_head?
    rwa [List.head?_append, List.head?_eq_some_head hne, Option.some_or,
      ← List.head?_eq_some_head hne]
  have hend : trimEnd (s ++ back) = trimEnd s := by
    have hreverse : ∀ c ∈ back.reverse, isBlank c := fun c hc => hback c (List.mem_reverse.mp hc)
    rw [trimEnd, List.reverse_append, List.dropWhile_append_of_pos hreverse, trimEnd]
  rw [trim, hstart, hend, trimEnd_of_getLast? hlast]

end EnvAudit.Text
