import Mathlib.Tactic.Ring
import EnvAudit.Calendar

/-!
# Quotients in binary floating point

Rounding to the nearest integer is compared with an even one (`divNearestEven_le_iff`).  A quotient
that is rounded to a fraction fine enough stays on its side of every whole number, so that rounding
up and rounding down give what they give of the exact quotient (`ceil_roundQuotient_le_iff`,
`le_floor_roundQuotient_iff`).  From `2 ^ 53` on the dividend itself is rounded first, to an even
number (`floor_roundQuotient_one`).
-/

namespace EnvAudit

variable {a b g k n s t : Nat}

/-! ## 1. The nearest integer -/

theorem divNearestEven_le_iff (hb : 0 < b) (hn : n % 2 = 0) :
    divNearestEven a b ≤ n ↔ 2 * a ≤ 2 * (b * n) + b := by
  have hdiv := Nat.div_add_mod a b
  have hmod := Nat.mod_lt a hb
  unfold divNearestEven
  rcases Nat.lt_trichotomy (a / b) n with h | h | h
  · have hmul := Nat.mul_le_mul_left b (Nat.succ_le_of_lt h)
    rw [Nat.mul_succ] at hmul
    dsimp only
    split <;> omega
  · -- a tie goes to the quotient, as that is the even neighbour
    rw [h] at hdiv ⊢
    dsimp only
    split <;> omega
  · have hmul := Nat.mul_le_mul_left b (Nat.succ_le_of_lt h)
    rw [Nat.mul_succ] at hmul
    dsimp only
    split <;> omega

theorem le_divNearestEven_iff (hb : 0 < b) (hn : n % 2 = 0) :
    n ≤ divNearestEven a b ↔ 2 * (b * n) ≤ 2 * a + b := by
  have hdiv := Nat.div_add_mod a b
  have hmod := Nat.mod_lt a hb
  unfold divNearestEven
  rcases Nat.lt_trichotomy (a / b + 1) n with h | h | h
  · have hmul := Nat.mul_le_mul_left b (Nat.succ_le_of_lt h)
    rw [Nat.mul_succ, Nat.mul_succ] at hmul
    dsimp only
    split <;> omega
  · -- a tie goes up, as the quotient below is odd
    rw [← h, Nat.mul_succ]
    dsimp only
    split <;> omega
  · have hmul := Nat.mul_le_mul_left b (Nat.le_of_lt_succ h)
    dsimp only
    split <;> omega

theorem divNearestEven_one (a : Nat) : divNearestEven a 1 = a := by
  unfold divNearestEven
  rw [Nat.div_one, Nat.mod_one]
  exact if_neg (by omega)

/-! ## 2. Fine enough fractions -/

theorem Dyadic.ceil_le_iff (x : Dyadic) : x.ceil ≤ k ↔ x.num ≤ k * 2 ^ x.scale := by
  have hpos : 0 < 2 ^ x.scale := Nat.two_pow_pos x.scale
  show (x.num + (2 ^ x.scale - 1)) / 2 ^ x.scale ≤ k ↔ _
  rw [Nat.div_le_iff_le_mul_add_pred hpos, Nat.mul_comm]
  omega

theorem Dyadic.le_floor_iff (x : Dyadic) : k ≤ x.floor ↔ k * 2 ^ x.scale ≤ x.num :=
  Nat.le_div_iff_mul_le (Nat.two_pow_pos x.scale)

/-- A multiple of `g` that is above another is above it by `g`. -/
theorem add_le_of_lt_of_dvd {m n : Nat} (hm : g ∣ m) (hn : g ∣ n) (h : m < n) : m + g ≤ n := by
  have hle := Nat.le_of_dvd (Nat.sub_pos_of_lt h) (Nat.dvd_sub hn hm)
  omega

theorem two_pow_mul_mod (hs : 0 < s) : k * 2 ^ s % 2 = 0 := by
  rw [← Nat.succ_pred_eq_of_pos hs, Nat.pow_succ, ← Nat.mul_assoc, Nat.mul_mod_left]

theorem divNearestEven_scaled_le_iff (hb : 0 < b) (hs : 0 < s) (ha : g ∣ a) (hg : g ∣ b)
    (hfine : b < 2 ^ (s + 1) * g) : divNearestEven (a * 2 ^ s) b ≤ k * 2 ^ s ↔ a ≤ k * b := by
  have hwhole : b * (k * 2 ^ s) = k * b * 2 ^ s := by ring
  rw [divNearestEven_le_iff hb (two_pow_mul_mod hs), hwhole]
  constructor
  · intro h
    by_contra hlt
    -- the dividend is too far above the whole number to be rounded to it
    have hgap := add_le_of_lt_of_dvd (hg.mul_left k) ha (Nat.lt_of_not_le hlt)
    have hmul := Nat.mul_le_mul_right (2 ^ s) hgap
    have hfine' : 2 ^ (s + 1) * g = 2 * (g * 2 ^ s) := by ring
    rw [Nat.add_mul] at hmul
    omega
  · intro h
    have hmul := Nat.mul_le_mul_right (2 ^ s) h
    omega

theorem le_divNearestEven_scaled_iff (hb : 0 < b) (hs : 0 < s) (ha : g ∣ a) (hg : g ∣ b)
    (hfine : b < 2 ^ (s + 1) * g) : k * 2 ^ s ≤ divNearestEven (a * 2 ^ s) b ↔ k * b ≤ a := by
  have hwhole : b * (k * 2 ^ s) = k * b * 2 ^ s := by ring
  rw [le_divNearestEven_iff hb (two_pow_mul_mod hs), hwhole]
  constructor
  · intro h
    by_contra hlt
    have hgap := add_le_of_lt_of_dvd ha (hg.mul_left k) (Nat.lt_of_not_le hlt)
    have hmul := Nat.mul_le_mul_right (2 ^ s) hgap
    have hfine' : 2 ^ (s + 1) * g = 2 * (g * 2 ^ s) := by ring
    rw [Nat.add_mul] at hmul
    omega
  · intro h
    have hmul := Nat.mul_le_mul_right (2 ^ s) h
    omega

/-! ## 3. Rounded quotients -/

/-- A quotient below `2 ^ t` has at least `53 - t` bits behind the point. -/
theorem exists_roundQuotient_eq (hb : 0 < b) (ht : t ≤ 53) (h : a < 2 ^ t * b) :
    ∃ s, 53 - t ≤ s ∧ roundQuotient a b = ⟨divNearestEven (a * 2 ^ s) b, s⟩ := by
  have hfine : a * 2 ^ 128 / b < 2 ^ (t + 128) := by
    rw [Nat.div_lt_iff_lt_mul hb, Nat.pow_add, Nat.mul_right_comm]
    exact Nat.mul_lt_mul_of_pos_right h (Nat.two_pow_pos 128)
  have hbits : Nat.log2 (a * 2 ^ 128 / b) < t + 128 := by
    by_cases hzero : a * 2 ^ 128 / b = 0
    · rw [hzero, Nat.log2_zero]
      omega
    · exact (Nat.log2_lt hzero).mpr hfine
  refine ⟨53 + 128 - (Nat.log2 (a * 2 ^ 128 / b) + 1), by omega, ?_⟩
  exact if_pos (by show Nat.log2 (a * 2 ^ 128 / b) + 1 ≤ 53 + 128; omega)

theorem ceil_roundQuotient_le_iff (hb : 0 < b) (ht : t < 53) (h : a < 2 ^ t * b) (ha : g ∣ a)
    (hg : g ∣ b) (hfine : b < 2 ^ (54 - t) * g) : (roundQuotient a b).ceil ≤ k ↔ a ≤ k * b := by
  rcases exists_roundQuotient_eq hb ht.le h with ⟨s, hs, heq⟩
  have hpos : 0 < s := by omega
  have hpow : 2 ^ (54 - t) * g ≤ 2 ^ (s + 1) * g :=
    Nat.mul_le_mul_right g (Nat.pow_le_pow_right (by decide) (by omega))
  rw [heq, Dyadic.ceil_le_iff]
  exact divNearestEven_scaled_le_iff hb hpos ha hg (lt_of_lt_of_le hfine hpow)

theorem le_floor_roundQuotient_iff (hb : 0 < b) (ht : t < 53) (h : a < 2 ^ t * b) (ha : g ∣ a)
    (hg : g ∣ b) (hfine : b < 2 ^ (54 - t) * g) : k ≤ (roundQuotient a b).floor ↔ k * b ≤ a := by
  rcases exists_roundQuotient_eq hb ht.le h with ⟨s, hs, heq⟩
  have hpos : 0 < s := by omega
  have hpow : 2 ^ (54 - t) * g ≤ 2 ^ (s + 1) * g :=
    Nat.mul_le_mul_right g (Nat.pow_le_pow_right (by decide) (by omega))
  rw [heq, Dyadic.le_floor_iff]
  exact le_divNearestEven_scaled_iff hb hpos ha hg (lt_of_lt_of_le hfine hpow)

/-- A whole number below `2 ^ 53` is itself a double; the doubles from there to `2 ^ 54` are the even
numbers. -/
theorem floor_roundQuotient_one (h : a < 2 ^ 54) :
    (roundQuotient a 1).floor = if a < 2 ^ 53 then a else 2 * divNearestEven a 2 := by
  split
  next hsmall =>
    rcases exists_roundQuotient_eq (b := 1) (by decide) (le_refl 53) (by omega) with ⟨s, -, heq⟩
    rw [heq, divNearestEven_one]
    exact Nat.mul_div_cancel a (Nat.two_pow_pos s)
  next hlarge =>
    have hfine : a * Nat.pow 2 128 / 1 = a * 2 ^ 128 := Nat.div_one _
    have hbits : Nat.log2 (a * 2 ^ 128) = 181 := by
      apply (Nat.log2_eq_iff (by omega)).mpr
      omega
    unfold roundQuotient
    rw [hfine]
    simp only [hbits]
    show divNearestEven a (1 * 2) * 2 / 1 = 2 * divNearestEven a 2
    rw [Nat.one_mul, Nat.div_one, Nat.mul_comm]

end EnvAudit
