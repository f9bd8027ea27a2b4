import Mathlib.Order.Bounds.Basic
import EnvAudit.Proofs.Calendar.NextDay
import EnvAudit.Proofs.Calendar.Quotient

/-!
# Days left, rounded up

The days from an instant to a date are computed from whole milliseconds in binary floating point.
`daysUntil_le_iff` says what the result is for every date and instant of the clock: the span has to
go beyond `k` days by more than `slack k` nanoseconds to count as more than `k` days.  So the result
is the least number of days that reach the date except in the moments after a whole number of days
in which the slack hides the rest (`isLeast_daysUntil_iff`).
-/

namespace EnvAudit

/-! ## 1. Days of a span -/

def nanosPerDay : Int := 86400000000000

/-- How many nanoseconds beyond `k` days a span may have that counts as `k` days.  The span is cut
to milliseconds towards zero.  From `2 ^ 53` milliseconds on only the even ones are doubles, and the
millisecond on either side of a whole number of days is taken for it. -/
def slack (k : Int) : Int :=
  (if 0 ≤ k then 999999 else 0) + if k.natAbs * millisPerDay ≤ 2 ^ 53 then 0 else 1000000

/-- The span goes beyond a whole number of days, but not far enough to count. -/
def IsOverlooked (x : Int) : Prop := ∃ k, k * nanosPerDay < x ∧ x ≤ k * nanosPerDay + slack k

/-- The days of a number of milliseconds, as doubles give them. -/
def doubleDays (m : Nat) : Dyadic := roundQuotient (roundQuotient m 1).floor millisPerDay

theorem floor_roundQuotient_one_le_iff {m n : Nat} (hm : m < 2 ^ 54) (hn : n % 4 = 0) :
    (roundQuotient m 1).floor ≤ n ↔ m ≤ n + if m < 2 ^ 53 then 0 else 1 := by
  rw [floor_roundQuotient_one hm]
  split
  next => rfl
  next =>
    have heven := @divNearestEven_le_iff m 2 (n / 2) (by decide) (by omega)
    omega

theorem le_floor_roundQuotient_one_iff {m n : Nat} (hm : m < 2 ^ 54) (hn : n % 4 = 0) :
    n ≤ (roundQuotient m 1).floor ↔ n ≤ m + if m < 2 ^ 53 then 0 else 1 := by
  rw [floor_roundQuotient_one hm]
  split
  next => rfl
  next =>
    have heven := @le_divNearestEven_iff m 2 (n / 2) (by decide) (by omega)
    omega

/-- Doubles of whole milliseconds keep their side of every number of days. -/
theorem doubleDays_ceil_le_iff_floor {m k : Nat} (hm : m < 2 ^ 54) :
    ((doubleDays m).ceil ≤ k ↔ (roundQuotient m 1).floor ≤ k * millisPerDay)
      ∧ (k ≤ (doubleDays m).floor ↔ k * millisPerDay ≤ (roundQuotient m 1).floor) := by
  have hday : 0 < millisPerDay := by decide
  unfold doubleDays
  by_cases hsmall : m < 2 ^ 53
  · have hlt : (roundQuotient m 1).floor < 2 ^ 27 * millisPerDay := by
      rw [floor_roundQuotient_one hm, if_pos hsmall]
      exact lt_trans hsmall (by decide)
    exact ⟨ceil_roundQuotient_le_iff hday (by decide) hlt (one_dvd _) (one_dvd _) (by decide),
      le_floor_roundQuotient_iff hday (by decide) hlt (one_dvd _) (one_dvd _) (by decide)⟩
  · -- the quotient has a bit less, and an even dividend
    have hle := (floor_roundQuotient_one_le_iff hm (n := 2 ^ 54) (by decide)).mpr (by omega)
    have hlt : (roundQuotient m 1).floor < 2 ^ 28 * millisPerDay := lt_of_le_of_lt hle (by decide)
    have heven : 2 ∣ (roundQuotient m 1).floor := by
      rw [floor_roundQuotient_one hm, if_neg hsmall]
      exact Nat.dvd_mul_right 2 _
    exact ⟨ceil_roundQuotient_le_iff hday (by decide) hlt heven (by decide) (by decide),
      le_floor_roundQuotient_iff hday (by decide) hlt heven (by decide) (by decide)⟩

theorem ceil_doubleDays_le_iff {m k : Nat} (hm : m < 2 ^ 54) :
    (doubleDays m).ceil ≤ k
      ↔ m ≤ k * millisPerDay + if k * millisPerDay ≤ 2 ^ 53 then 0 else 1 := by
  rw [(doubleDays_ceil_le_iff_floor hm).1,
    floor_roundQuotient_one_le_iff hm (by unfold millisPerDay; omega)]
  unfold millisPerDay
  split <;> split <;> omega

theorem le_floor_doubleDays_iff {m k : Nat} (hm : m < 2 ^ 54) :
    k ≤ (doubleDays m).floor
      ↔ k * millisPerDay ≤ m + if k * millisPerDay ≤ 2 ^ 53 then 0 else 1 := by
  rw [(doubleDays_ceil_le_iff_floor hm).2,
    le_floor_roundQuotient_one_iff hm (by unfold millisPerDay; omega)]
  unfold millisPerDay
  split <;> split <;> omega

theorem ceilQuotient_natCast (m : Nat) : ceilQuotient m millisPerDay = (doubleDays m).ceil := by
  rw [ceilQuotient, if_neg (Int.not_lt.mpr (Int.natCast_nonneg m)), Int.natAbs_natCast]
  rfl

theorem ceilQuotient_neg_natCast (m : Nat) :
    ceilQuotient (-m) millisPerDay = -((doubleDays m).floor : Int) := by
  cases m with
  | zero => rfl
  | succ m =>
    rw [ceilQuotient, Int.natAbs_neg, Int.natAbs_natCast]
    exact if_pos (by omega)

/-- The span has fewer than `2 ^ 54` milliseconds. -/
def IsInReach (x : Int) : Prop := x.natAbs < 2 ^ 54 * 1000000

/-- A span of nanoseconds counts as at most `k` days just if it is within the slack of `k` days. -/
theorem ceilQuotient_tdiv_le_iff {x k : Int} (hx : IsInReach x) :
    ceilQuotient (x.tdiv 1000000) millisPerDay ≤ k ↔ x ≤ k * nanosPerDay + slack k := by
  have hm : x.natAbs / 1000000 < 2 ^ 54 := Nat.div_lt_of_lt_mul (Nat.mul_comm _ _ ▸ hx)
  have hceil := @ceil_doubleDays_le_iff (x.natAbs / 1000000) k.natAbs hm
  have hfloor := @le_floor_doubleDays_iff (x.natAbs / 1000000) k.natAbs hm
  rcases le_or_gt 0 x with hnonneg | hneg
  · have htdiv : x.tdiv 1000000 = ((x.natAbs / 1000000 : Nat) : Int) := by
      rw [Int.tdiv_eq_ediv_of_nonneg hnonneg]
      omega
    rw [htdiv, ceilQuotient_natCast]
    unfold slack nanosPerDay
    unfold millisPerDay at *
    split at hceil <;> split <;> omega
  · have htdiv : x.tdiv 1000000 = -((x.natAbs / 1000000 : Nat) : Int) := by
      rw [← neg_neg x, Int.neg_tdiv, Int.tdiv_eq_ediv_of_nonneg (by omega)]
      omega
    rw [htdiv, ceilQuotient_neg_natCast]
    unfold slack nanosPerDay
    unfold millisPerDay at *
    split at hfloor <;> split <;> omega

/-! ## 2. The clock -/

/-- The years of the clock reach from -262143 to 262142. -/
def Date.OnClock (d : Date) : Prop := d.isValid ∧ -262143 ≤ d.year ∧ d.year ≤ 262142

def Instant.OnClock (now : Instant) : Prop :=
  (Instant.midnight ⟨-262143, 1, 1⟩).nanos ≤ now.nanos
    ∧ now.nanos < (Instant.midnight ⟨262143, 1, 1⟩).nanos

/-- The nanoseconds from an instant to the midnight with which a date begins. -/
def span (d : Date) (now : Instant) : Int := (Instant.midnight d).nanos - now.nanos

def Instant.addDays (now : Instant) (n : Int) : Instant := ⟨now.nanos + n * nanosPerDay⟩

theorem nanos_midnight (d : Date) : (Instant.midnight d).nanos = d.dayNumber * nanosPerDay := by
  show d.dayNumber * 86400 * 1000000000 + 0 = d.dayNumber * 86400000000000
  omega

variable {d : Date} {now : Instant}

theorem dayNumber_bounds (h : d.OnClock) : -100000000 ≤ d.dayNumber ∧ d.dayNumber ≤ 100000000 := by
  rcases h with ⟨hvalid, hlo, hhi⟩
  rw [isValid_iff] at hvalid
  have hday := (daysInMonth_bounds d.year d.month).2
  simp only [Date.dayNumber, Date.daysFromMarch]
  omega

theorem nanos_bounds (h : now.OnClock) :
    -100000000 * nanosPerDay ≤ now.nanos ∧ now.nanos ≤ 100000000 * nanosPerDay := by
  have hfirst : -100000000 * nanosPerDay ≤ (Instant.midnight ⟨-262143, 1, 1⟩).nanos := by decide
  have hlast : (Instant.midnight ⟨262143, 1, 1⟩).nanos ≤ 100000000 * nanosPerDay := by decide
  exact ⟨hfirst.trans h.1, h.2.le.trans hlast⟩

/-- The spans of the clock are in reach, also with the date moved to the next day. -/
theorem isInReach_span (hd : d.OnClock) (hnow : now.OnClock) :
    IsInReach (span d now) ∧ IsInReach (span d now + nanosPerDay) := by
  have hday := dayNumber_bounds hd
  have hnanos := nanos_bounds hnow
  rw [span, nanos_midnight]
  unfold IsInReach nanosPerDay at *
  omega

theorem daysUntil_le_iff {k : Int} (h : IsInReach (span d now)) :
    daysUntil d now ≤ k ↔ span d now ≤ k * nanosPerDay + slack k :=
  ceilQuotient_tdiv_le_iff h

theorem span_next (h : d.isValid) (now : Instant) : span d.next now = span d now + nanosPerDay := by
  rw [span, span, nanos_midnight, nanos_midnight, dayNumber_next h]
  unfold nanosPerDay
  omega

/-! ## 3. Rounding up -/

variable {x n : Int}

theorem slack_bounds (k : Int) : 0 ≤ slack k ∧ slack k < nanosPerDay := by
  unfold slack nanosPerDay
  split <;> split <;> omega

/-- The days of the span are `n` if a part of a day counts as a day. -/
def RoundsUpTo (x n : Int) : Prop := (n - 1) * nanosPerDay < x ∧ x ≤ n * nanosPerDay

theorem exists_roundsUpTo (x : Int) : ∃ n, RoundsUpTo x n := by
  refine ⟨-(-x / nanosPerDay), ?_⟩
  unfold RoundsUpTo nanosPerDay
  omega

theorem isLeast_iff_eq {m : Int} (hn : RoundsUpTo (span d now) n) :
    IsLeast {n | (Instant.midnight d).nanos ≤ (now.addDays n).nanos} m ↔ m = n := by
  have hleast : IsLeast {n | (Instant.midnight d).nanos ≤ (now.addDays n).nanos} n := by
    constructor
    · show (Instant.midnight d).nanos ≤ now.nanos + n * nanosPerDay
      unfold RoundsUpTo span at hn
      omega
    · intro k hk
      have hreach : (Instant.midnight d).nanos ≤ now.nanos + k * nanosPerDay := hk
      unfold RoundsUpTo span nanosPerDay at *
      omega
  exact ⟨fun h => h.unique hleast, fun h => h ▸ hleast⟩

/-- The only whole number of days that a span can be overlooked to exceed is the last below it. -/
theorem isOverlooked_iff (hn : RoundsUpTo x n) :
    IsOverlooked x ↔ x ≤ (n - 1) * nanosPerDay + slack (n - 1) := by
  constructor
  · intro h
    rcases h with ⟨k, hlt, hle⟩
    have hslack := slack_bounds k
    have hk : k = n - 1 := by
      unfold RoundsUpTo nanosPerDay at *
      omega
    exact hk ▸ hle
  · intro h
    exact ⟨n - 1, hn.1, h⟩

theorem daysUntil_eq (h : IsInReach (span d now)) (hn : RoundsUpTo (span d now) n) :
    (IsOverlooked (span d now) → daysUntil d now = n - 1)
      ∧ (¬ IsOverlooked (span d now) → daysUntil d now = n) := by
  have hle := daysUntil_le_iff h (k := n)
  have hless := daysUntil_le_iff h (k := n - 1)
  have hlesser := daysUntil_le_iff h (k := n - 2)
  -- with slack or without, `n` days are enough and `n - 2` are not
  have hslack := slack_bounds n
  have hslack' := slack_bounds (n - 2)
  rw [isOverlooked_iff hn]
  unfold RoundsUpTo nanosPerDay at *
  omega

/-- Within `2 ^ 53` milliseconds the spans that are overlooked are those that go beyond a whole
number of days, none or more, by less than a millisecond. -/
theorem isOverlooked_iff_of_le (h : x.natAbs ≤ 2 ^ 53 * 1000000) :
    IsOverlooked x ↔ 0 < x ∧ 0 < x % nanosPerDay ∧ x % nanosPerDay < 1000000 := by
  rcases exists_roundsUpTo x with ⟨n, hn⟩
  rw [isOverlooked_iff hn]
  unfold RoundsUpTo slack nanosPerDay millisPerDay at *
  split <;> split <;> omega

theorem daysUntil_pos_iff (h : IsInReach (span d now)) :
    0 < daysUntil d now ↔ now.nanos + 1000000 ≤ (Instant.midnight d).nanos := by
  have hzero := daysUntil_le_iff h (k := 0)
  have hslack : slack 0 = 999999 := rfl
  unfold span at hzero
  omega

theorem daysUntil_anti {now' : Instant} (h : IsInReach (span d now))
    (h' : IsInReach (span d now')) (hle : now.nanos ≤ now'.nanos) :
    daysUntil d now' ≤ daysUntil d now := by
  rw [daysUntil_le_iff h']
  calc span d now' ≤ span d now := Int.sub_le_sub_left hle _
    _ ≤ daysUntil d now * nanosPerDay + slack (daysUntil d now) :=
      (daysUntil_le_iff h).mp (le_refl _)

/-- The next day has one day more left, unless just one of the two spans is overlooked. -/
theorem daysUntil_next_iff (hd : d.isValid) (h : IsInReach (span d now))
    (hnext : IsInReach (span d.next now)) :
    daysUntil d.next now = daysUntil d now + 1
      ↔ (IsOverlooked (span d.next now) ↔ IsOverlooked (span d now)) := by
  rcases exists_roundsUpTo (span d now) with ⟨n, hn⟩
  have hnnext : RoundsUpTo (span d.next now) (n + 1) := by
    rw [span_next hd]
    unfold RoundsUpTo nanosPerDay at *
    omega
  have heq := daysUntil_eq h hn
  have heqnext := daysUntil_eq hnext hnnext
  by_cases hover : IsOverlooked (span d now)
  · rw [heq.1 hover, iff_true_right hover]
    constructor
    · intro hone
      by_contra hplain
      rw [heqnext.2 hplain] at hone
      omega
    · intro hboth
      rw [heqnext.1 hboth]
      omega
  · rw [heq.2 hover, iff_false_right hover]
    constructor
    · intro hone hboth
      rw [heqnext.1 hboth] at hone
      omega
    · intro hplain
      exact heqnext.2 hplain

/-- The days left are the least number of days that reach the date except for spans that are
overlooked, for which they are one less.  They are positive while a millisecond or more is left,
they change by one with the date unless just one of the two spans is overlooked, and they never grow
as time goes on. -/
theorem isLeast_daysUntil_iff (hd : d.OnClock) (hnow : now.OnClock) :
    (IsLeast {n | (Instant.midnight d).nanos ≤ (now.addDays n).nanos} (daysUntil d now)
        ↔ ¬ IsOverlooked (span d now))
      ∧ (∀ n, IsLeast {n | (Instant.midnight d).nanos ≤ (now.addDays n).nanos} n →
          IsOverlooked (span d now) → daysUntil d now = n - 1)
      ∧ (0 < daysUntil d now ↔ now.nanos + 1000000 ≤ (Instant.midnight d).nanos)
      ∧ (daysUntil d.next now = daysUntil d now + 1
          ↔ (IsOverlooked (span d.next now) ↔ IsOverlooked (span d now)))
      ∧ ∀ now' : Instant, now'.OnClock → now.nanos ≤ now'.nanos →
          daysUntil d now' ≤ daysUntil d now := by
  rcases isInReach_span hd hnow with ⟨hreach, hreach'⟩
  have hnext : IsInReach (span d.next now) := span_next hd.1 now ▸ hreach'
  rcases exists_roundsUpTo (span d now) with ⟨n, hn⟩
  have heq := daysUntil_eq hreach hn
  refine ⟨?_, fun m hm hover => ?_, daysUntil_pos_iff hreach, daysUntil_next_iff hd.1 hreach hnext,
    fun now' hnow' hle => ?_⟩
  · rw [isLeast_iff_eq hn]
    constructor
    · intro hceil hover
      rw [heq.1 hover] at hceil
      omega
    · intro hplain
      exact heq.2 hplain
  · rw [(isLeast_iff_eq hn).mp hm]
    exact heq.1 hover
  · exact daysUntil_anti hreach (isInReach_span hd hnow').1 hle

theorem isLeast_daysUntil_evening :
    let d : Date := ⟨2024, 12, 31⟩
    let now := Instant.ofSeconds 1733076000 0
    d.OnClock ∧ now.OnClock
      ∧ IsLeast {n | (Instant.midnight d).nanos ≤ (now.addDays n).nanos} (daysUntil d now)
      ∧ daysUntil d now = 30 := by
  intro d now
  have hd : d.OnClock := ⟨by decide, by decide, by decide⟩
  have hnow : now.OnClock := ⟨by decide, by decide⟩
  have hplain : ¬ IsOverlooked (span d now) := by
    rw [isOverlooked_iff_of_le (by decide)]
    decide
  exact ⟨hd, hnow, (isLeast_daysUntil_iff hd hnow).1.mpr hplain, by decide +kernel⟩

/-- A nanosecond before the midnight no day is left, and moving the date from the day before to that
day changes nothing. -/
theorem not_isLeast_daysUntil :
    let d : Date := ⟨2024, 12, 1⟩
    let now := Instant.ofSeconds 1733011199 999999999
    d.OnClock ∧ now.OnClock ∧ now.nanos < (Instant.midnight d).nanos
      ∧ ¬ IsLeast {n | (Instant.midnight d).nanos ≤ (now.addDays n).nanos} (daysUntil d now)
      ∧ ¬ 0 < daysUntil d now
      ∧ (⟨2024, 11, 30⟩ : Date).next = d ∧ daysUntil d now = daysUntil ⟨2024, 11, 30⟩ now := by
  intro d now
  have hzero : daysUntil d now = 0 := by decide +kernel
  refine ⟨⟨by decide, by decide, by decide⟩, ⟨by decide, by decide⟩, by decide, ?_, ?_,
    by decide, ?_⟩
  · rw [hzero]
    intro h
    exact absurd h.1 (by decide)
  · rw [hzero]
    decide
  · rw [hzero]
    decide +kernel

end EnvAudit
