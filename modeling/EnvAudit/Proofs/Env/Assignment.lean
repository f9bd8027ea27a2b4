import Mathlib.Data.List.TakeWhile
import EnvAudit.Env.Expiry

/-!
# Two grammars of assignments

The parser trims what stands around the first `=`; the expiry pass wants a key of ASCII characters
directly before it.  `assignedKey?_eq_some` says which lines the pass takes, and
`assignment?_of_assignedKey?` that the parser takes each of them, with the same key.
-/

namespace EnvAudit

/-! ## 1. Text without white space -/

namespace Text

theorem trimStart_eq_self {s : Text} (h : ∀ c ∈ s, isBlank c = false) : trimStart s = s := by
  cases s with
  | nil => rfl
  | cons c s => exact List.dropWhile_cons_of_neg (Bool.eq_false_iff.mp (h c List.mem_cons_self))

theorem trim_eq_self {s : Text} (h : ∀ c ∈ s, isBlank c = false) : trim s = s := by
  have hreverse : ∀ c ∈ s.reverse, isBlank c = false := fun c hc => h c (List.mem_reverse.mp hc)
  rw [trim, trimStart_eq_self h, trimEnd]
  show (trimStart s.reverse).reverse = s
  rw [trimStart_eq_self hreverse, List.reverse_reverse]

theorem splitOnce?_append {sep : Char} {s : Text} (h : sep ∉ s) (t : Text) :
    splitOnce? sep (s ++ sep :: t) = some (s, t) := by
  induction s with
  | nil => exact if_pos rfl
  | cons c s ih =>
    rw [List.mem_cons, not_or] at h
    rw [List.cons_append, splitOnce?, if_neg (Ne.symm h.1), ih h.2]
    rfl

end Text

/-! ## 2. The lines that the expiry pass takes -/

theorem not_isBlank_of_isNameChar {c : Char} (h : isNameChar c) : isBlank c = false := by
  rw [Bool.eq_false_iff]
  intro hblank
  simp only [isBlank, Bool.or_eq_true, Bool.and_eq_true, decide_eq_true_eq, beq_iff_eq] at hblank
  rcases isNameChar_iff.mp h with hc | hc | hc | rfl
  · omega
  · omega
  · omega
  · revert hblank
    decide

theorem not_isBlank_of_isKeyChar {c : Char} (h : isKeyChar c) : isBlank c = false := by
  rw [isKeyChar, Bool.or_eq_true, Bool.or_eq_true, beq_iff_eq, beq_iff_eq] at h
  rcases h with (hname | rfl) | rfl
  · exact not_isBlank_of_isNameChar hname
  · decide
  · decide

theorem assignedKey?_eq_some {line key : Text} :
    assignedKey? line = some key
      ↔ key ≠ [] ∧ (∀ c ∈ key, isKeyChar c) ∧ ∃ value, line = key ++ '=' :: value := by
  simp only [assignedKey?, Option.ite_none_right_eq_some, Option.some.injEq, Bool.and_eq_true,
    Bool.not_eq_true', decide_eq_true_eq]
  constructor
  · intro h
    rcases h with ⟨⟨hne, hhead⟩, rfl⟩
    rcases List.head?_eq_some_iff.mp hhead with ⟨value, hvalue⟩
    refine ⟨by simpa using hne, fun c hc => List.mem_takeWhile_imp hc, value, ?_⟩
    rw [← hvalue, List.takeWhile_append_dropWhile]
  · intro h
    rcases h with ⟨hne, hkey, value, rfl⟩
    -- no key can hold the `=`, so the longest run of key characters ends before it
    have hstop : ¬ isKeyChar '=' := by decide
    rw [List.takeWhile_append_of_pos hkey, List.dropWhile_append_of_pos hkey,
      List.takeWhile_cons_of_neg hstop, List.dropWhile_cons_of_neg hstop, List.append_nil]
    exact ⟨⟨by simpa using hne, rfl⟩, rfl⟩

/-- The parser takes every line that the pass takes, and finds the same key on it. -/
theorem assignment?_of_assignedKey? {line key : Text}
    (h : assignedKey? (Text.trim line) = some key) :
    (assignment? line).map (·.1) = some key := by
  rcases assignedKey?_eq_some.mp h with ⟨hne, hkey, value, hline⟩
  have hequals : '=' ∉ key := fun hmem => absurd (hkey '=' hmem) (by decide)
  have hhash : '#' ∉ key := fun hmem => absurd (hkey '#' hmem) (by decide)
  have htrim : Text.trim key = key :=
    Text.trim_eq_self fun c hc => not_isBlank_of_isKeyChar (hkey c hc)
  have hhead : (Text.trim line).head? ≠ some '#' := by
    rw [hline, List.head?_append, List.head?_eq_some_head hne, Option.some_or]
    exact fun hhead => hhash (Option.some.inj hhead ▸ List.head_mem hne)
  simp only [assignment?]
  rw [if_neg hhead, hline, Text.splitOnce?_append hequals]
  simp only [htrim]
  rw [if_neg (by simpa using hne)]
  rfl

end EnvAudit
