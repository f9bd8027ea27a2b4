import Mathlib.Tactic.IntervalCases
import EnvAudit.Calendar

/-!
# The next day

The day after a day of the calendar is a day of the calendar (`isValid_next`), and days are numbered
in their order without gaps (`dayNumber_next`).
-/

namespace EnvAudit

theorem isValid_iff {d : Date} :
    d.isValid ↔ (1 ≤ d.month ∧ d.month ≤ 12) ∧ 1 ≤ d.day ∧ d.day ≤ daysInMonth d.year d.month := by
  simp only [Date.isValid, Bool.and_eq_true, decide_eq_true_eq, and_assoc]

theorem isLeapYear_iff {year : Int} :
    isLeapYear year ↔ year % 4 = 0 ∧ (year % 100 ≠ 0 ∨ year % 400 = 0) := by
  simp [isLeapYear]

theorem daysInMonth_bounds (year : Int) (month : Nat) :
    28 ≤ daysInMonth year month ∧ daysInMonth year month ≤ 31 := by
  unfold daysInMonth
  split
  case h_1 => split <;> omega
  all_goals omega

/-- The day after a day of the calendar. -/
def Date.next (d : Date) : Date :=
  if d.day < daysInMonth d.year d.month then ⟨d.year, d.month, d.day + 1⟩
  else if d.month < 12 then ⟨d.year, d.month + 1, 1⟩
  else ⟨d.year + 1, 1, 1⟩

theorem isValid_next {d : Date} (h : d.isValid) : d.next.isValid := by
  have hfirst (year : Int) (month : Nat) : 1 ≤ daysInMonth year month :=
    le_trans (by decide) (daysInMonth_bounds year month).1
  rw [isValid_iff] at h ⊢
  unfold Date.next
  split
  next hday => exact ⟨h.1, Nat.le_add_left 1 d.day, hday⟩
  next =>
    split
    next hmonth =>
      exact ⟨⟨Nat.le_add_left 1 d.month, hmonth⟩, le_refl 1, hfirst d.year (d.month + 1)⟩
    next => exact ⟨⟨le_refl 1, by show 1 ≤ 12; decide⟩, le_refl 1, hfirst (d.year + 1) 1⟩

/-- Days are numbered without gaps: over months, years and leap days. -/
theorem dayNumber_next {d : Date} (h : d.isValid) : d.next.dayNumber = d.dayNumber + 1 := by
  rw [isValid_iff] at h
  rcases d with ⟨year, month, day⟩
  unfold Date.next
  split
  next =>
    simp only [Date.dayNumber, Date.daysFromMarch]
    omega
  next hlast =>
    have hday : day = daysInMonth year month := le_antisymm h.2.2 (Nat.le_of_not_lt hlast)
    have hmonth : 1 ≤ month ∧ month ≤ 12 := h.1
    rcases hmonth with ⟨hlo, hhi⟩
    simp only [Date.dayNumber, Date.daysFromMarch, hday]
    clear hlast h hday
    -- a case for each month; only the end of February asks about leap years
    interval_cases month
    case «2» =>
      simp [daysInMonth, isLeapYear_iff]
      split <;> omega
    all_goals
      simp [daysInMonth]
      omega

end EnvAudit
