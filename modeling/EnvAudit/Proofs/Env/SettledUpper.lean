import Mathlib.Data.Nat.Bitwise
import EnvAudit.Proofs.Env.Suggestion

/-!
# Settled characters

Upper case is settled after one pass: what it makes of a character it makes of itself
(`isSettled_of_mem_upperChar`).  That is a fact about the tables of the Unicode standard, and it is
checked on the tables as a whole.  The code points that upper case may change are the bits of one
number, and what it may change them to are the bits of another; the two have none in common.
-/

namespace EnvAudit

/-! ## 1. Sets of code points -/

/-- The numbers as the bits of one number. -/
def bitsOf : List Nat → Nat
  | [] => 0
  | n :: ns => 2 ^ n ||| bitsOf ns

theorem testBit_bitsOf {ns : List Nat} {n : Nat} : (bitsOf ns).testBit n ↔ n ∈ ns := by
  induction ns with
  | nil => simp [bitsOf]
  | cons m ns ih =>
    rw [bitsOf, Nat.testBit_lor, Bool.or_eq_true, ih, Nat.testBit_two_pow, decide_eq_true_eq,
      List.mem_cons, eq_comm]

theorem not_mem_of_bitsOf_land {ms ns : List Nat} (h : bitsOf ms &&& bitsOf ns = 0) {n : Nat}
    (hm : n ∈ ms) : n ∉ ns := by
  intro hn
  have hbit : (bitsOf ms &&& bitsOf ns).testBit n = true := by
    rw [Nat.testBit_land, testBit_bitsOf.mpr hm, testBit_bitsOf.mpr hn, Bool.and_self]
  rw [h, Nat.zero_testBit] at hbit
  cases hbit

/-! ## 2. Upper case of upper case -/

namespace Unicode

/-- The code points of a run. -/
def CaseRun.sources (r : CaseRun) : List Nat :=
  (List.range ((r.last - r.first) / r.step + 1)).map fun k => r.first + k * r.step

/-- What the code points of a run are taken to. -/
def CaseRun.targets (r : CaseRun) : List Nat :=
  (List.range ((r.last - r.first) / r.step + 1)).map fun k => r.target + k * r.step

theorem CaseRun.mem_of_image? {r : CaseRun} {n m : Nat} (h : r.image? n = some m) :
    n ∈ r.sources ∧ m ∈ r.targets := by
  rw [CaseRun.image?, Option.ite_none_right_eq_some] at h
  simp only [Bool.and_eq_true, decide_eq_true_eq, beq_iff_eq, Option.some.injEq] at h
  rcases h with ⟨⟨⟨hfirst, hlast⟩, hstep⟩, rfl⟩
  have hk : (n - r.first) / r.step * r.step = n - r.first :=
    Nat.div_mul_cancel (Nat.dvd_of_mod_eq_zero hstep)
  have hlt : (n - r.first) / r.step < (r.last - r.first) / r.step + 1 :=
    Nat.lt_succ_of_le (Nat.div_le_div_right (Nat.sub_le_sub_right hlast r.first))
  constructor
  · exact List.mem_map.mpr ⟨_, List.mem_range.mpr hlt, by rw [hk]; omega⟩
  · exact List.mem_map.mpr ⟨_, List.mem_range.mpr hlt, by rw [hk]⟩

variable (runs : List CaseRun) (expansions : List (Nat × List Nat))

/-- The code points that a case mapping may change. -/
def mapped : List Nat := runs.flatMap CaseRun.sources ++ expansions.map Prod.fst

/-- What it may change them to. -/
def images : List Nat := runs.flatMap CaseRun.targets ++ expansions.flatMap Prod.snd

variable {runs expansions}

theorem mem_images_or_eq {n m : Nat} (h : m ∈ caseImage runs expansions n) :
    m ∈ images runs expansions ∨ caseImage runs expansions n = [m] ∧ m = n := by
  unfold caseImage at h ⊢
  unfold images
  rw [List.mem_append, List.mem_flatMap, List.mem_flatMap]
  split at h
  next image himage => exact Or.inl (Or.inr ⟨_, mem_of_lookup himage, h⟩)
  next hlookup =>
    rw [List.mem_singleton] at h
    cases hrun : runs.findSome? (·.image? n) with
    | none =>
      rw [hrun] at h
      rw [h]
      exact Or.inr ⟨rfl, rfl⟩
    | some k =>
      rw [hrun] at h
      rcases List.exists_of_findSome?_eq_some hrun with ⟨r, hr, himage⟩
      exact Or.inl (Or.inl ⟨r, hr, h ▸ (CaseRun.mem_of_image? himage).2⟩)

theorem caseImage_of_not_mem {n : Nat} (h : n ∉ mapped runs expansions) :
    caseImage runs expansions n = [n] := by
  unfold mapped at h
  rw [List.mem_append, not_or, List.mem_flatMap] at h
  have hlookup : expansions.lookup n = none := by
    rw [List.lookup_eq_none_iff]
    intro e he
    rw [bne_iff_ne]
    rintro rfl
    exact h.2 (List.mem_map_of_mem he)
  have hrun : runs.findSome? (·.image? n) = none := by
    rw [List.findSome?_eq_none_iff]
    intro r hr
    cases himage : r.image? n with
    | none => rfl
    | some m => exact absurd ⟨r, hr, (CaseRun.mem_of_image? himage).1⟩ h.1
  rw [caseImage, hlookup, hrun]
  rfl

/-- The white space beyond ASCII. -/
def blanksBeyond : List Nat :=
  [0x85, 0xA0, 0x1680] ++ List.range' 0x2000 11 ++ [0x2028, 0x2029, 0x202F, 0x205F, 0x3000]

/-- What no capital is: ASCII but for its capitals, and the white space beyond it. -/
def strangers : List Nat := List.range 65 ++ List.range' 91 37 ++ blanksBeyond

variable (runs expansions) in
/-- The mapping leaves alone what it makes and the white space beyond ASCII, and makes no
stranger. -/
def isSettling : Bool :=
  bitsOf (images runs expansions ++ blanksBeyond) &&& bitsOf (mapped runs expansions) == 0
    && bitsOf (images runs expansions) &&& bitsOf strangers == 0

set_option maxRecDepth 100000 in
theorem isSettling_upper : isSettling upperRuns upperExpansions := by
  -- the characters take the place of the literals, which would be taken apart at every step
  have hexpansions : upperExpansions = expansionsOfCodes _ :=
    congrArg expansionsOfCodes (hexCodes_ofList _)
  have hruns : upperRuns = CaseRun.ofCodes _ := congrArg CaseRun.ofCodes (hexCodes_ofList _)
  rw [hexpansions, hruns]
  decide +kernel

theorem not_mem_mapped {n : Nat}
    (h : n ∈ images upperRuns upperExpansions ++ blanksBeyond) :
    n ∉ mapped upperRuns upperExpansions :=
  not_mem_of_bitsOf_land (beq_iff_eq.mp (Bool.and_eq_true_iff.mp isSettling_upper).1) h

theorem not_mem_strangers {n : Nat} (h : n ∈ images upperRuns upperExpansions) :
    n ∉ strangers :=
  not_mem_of_bitsOf_land (beq_iff_eq.mp (Bool.and_eq_true_iff.mp isSettling_upper).2) h

end Unicode

/-- Respelling leaves the character as it is, unless it stands in a hump. -/
def IsSettled (c : Char) : Prop := Unicode.upperChar c = [c] ∧ isNameSeparator c = false

instance (c : Char) : Decidable (IsSettled c) := inferInstanceAs (Decidable (_ ∧ _))

/-- What holds of the ASCII characters one by one holds of all of them. -/
theorem forall_of_ascii {P : Char → Prop} (h : ∀ n < 128, P (Char.ofNat n)) {c : Char}
    (hc : c.toNat < 128) : P c :=
  Char.ofNat_toNat c ▸ h c.toNat hc

theorem isSettled_toUpper {c : Char} (hlt : c.toNat < 128) :
    isNameSeparator c = false → IsSettled c.toUpper ∧ (isAsciiDigit c.toUpper → c = c.toUpper) :=
  forall_of_ascii
    (P := fun c => isNameSeparator c = false →
      IsSettled c.toUpper ∧ (isAsciiDigit c.toUpper → c = c.toUpper))
    (by decide) hlt

theorem toNat_of_isNameSeparator {c : Char} (h : isNameSeparator c) :
    c.toNat < 65 ∨ c.toNat ∈ Unicode.blanksBeyond := by
  simp only [isNameSeparator, isBlank, Bool.or_eq_true, Bool.and_eq_true, decide_eq_true_eq,
    beq_iff_eq] at h
  simp only [Unicode.blanksBeyond, List.mem_append, List.mem_range'_1, List.mem_cons,
    List.not_mem_nil, or_false]
  rcases h with rfl | h
  · decide
  · omega

/-- What the tables of upper case lead to is no digit and settled. -/
theorem isSettled_ofNat {n : Nat}
    (h : n ∈ Unicode.images Unicode.upperRuns Unicode.upperExpansions) :
    IsSettled (Char.ofNat n) ∧ ¬ isAsciiDigit (Char.ofNat n) := by
  by_cases hvalid : n.isValidChar
  · have hn := Text.toNat_ofNat hvalid
    have hmapped := Unicode.not_mem_mapped (List.mem_append_left _ h)
    have hstrange := Unicode.not_mem_strangers h
    simp only [Unicode.strangers, List.mem_append, List.mem_range, List.mem_range'_1, not_or]
      at hstrange
    have hcapital : n < 128 → 65 ≤ n ∧ n ≤ 90 := by omega
    refine ⟨⟨?_, ?_⟩, ?_⟩
    · by_cases hlt : n < 128
      · have hupper : Char.toUpper (Char.ofNat n) = Char.ofNat n := by
          have hall : ∀ m < 91, 65 ≤ m → Char.toUpper (Char.ofNat m) = Char.ofNat m := by decide
          exact hall n (by omega) (by omega)
        rw [upperChar_of_lt (by rwa [hn]), hupper]
      · rw [Unicode.upperChar, hn, if_neg hlt, Unicode.caseImage_of_not_mem hmapped]
        rfl
    · rw [Bool.eq_false_iff]
      intro hseparator
      have hplace := toNat_of_isNameSeparator hseparator
      rw [hn] at hplace
      exact hplace.elim hstrange.1.1 hstrange.2
    · rw [isAsciiDigit_iff, hn]
      omega
  · -- a number that is no code point stands for the first one
    rw [Char.ofNat, dif_neg hvalid]
    decide

/-- Upper case is settled, and makes a digit of nothing but that digit. -/
theorem isSettled_of_mem_upperChar {c d : Char} (hc : isNameSeparator c = false)
    (h : d ∈ Unicode.upperChar c) : IsSettled d ∧ (isAsciiDigit d → c = d) := by
  by_cases hlt : c.toNat < 128
  · rw [upperChar_of_lt hlt, List.mem_singleton] at h
    rw [h]
    exact isSettled_toUpper hlt hc
  · have hupper : Unicode.upperChar c
        = (Unicode.caseImage Unicode.upperRuns Unicode.upperExpansions c.toNat).map Char.ofNat :=
      if_neg hlt
    rw [hupper, List.mem_map] at h
    rcases h with ⟨n, hn, rfl⟩
    rcases Unicode.mem_images_or_eq hn with himage | ⟨hself, rfl⟩
    · have hsettled := isSettled_ofNat himage
      exact ⟨hsettled.1, fun hdigit => absurd hdigit hsettled.2⟩
    · rw [hself] at hupper
      rw [Char.ofNat_toNat]
      refine ⟨⟨?_, hc⟩, fun _ => rfl⟩
      rw [hupper, List.map_singleton, Char.ofNat_toNat]

/-- A small letter is not left alone. -/
theorem IsSettled.not_isAsciiLower {c : Char} (h : IsSettled c) : ¬ isAsciiLower c := by
  intro hlower
  have hc := isAsciiLower_iff.mp hlower
  have hlt : c.toNat < 128 := by omega
  have hself : c.toUpper = c := by
    have hupper := h.1
    rw [upperChar_of_lt hlt] at hupper
    exact List.head_eq_of_cons_eq hupper
  have hname : isNameChar c := isNameChar_iff.mpr (Or.inr (Or.inl hc))
  have hcase := (isUpperSnakeChar_toUpper hlt).mpr hname
  rw [hself, isUpperSnakeChar_iff] at hcase
  rcases hcase with hupper | hdigit | rfl
  · omega
  · omega
  · exact absurd hlower (by decide)

theorem upperChar_of_isAsciiDigit {c : Char} (h : isAsciiDigit c) : Unicode.upperChar c = [c] := by
  have hcode := isAsciiDigit_iff.mp h
  have hlt : c.toNat < 128 := by omega
  have hself : isAsciiDigit c → c.toUpper = c :=
    forall_of_ascii (P := fun c => isAsciiDigit c → c.toUpper = c) (by decide) hlt
  rw [upperChar_of_lt hlt, hself h]

/-- Dashes and white space have no other upper case. -/
theorem upperChar_of_isNameSeparator {c : Char} (h : isNameSeparator c) :
    Unicode.upperChar c = [c] := by
  by_cases hlt : c.toNat < 128
  · have hself : isNameSeparator c → c.toUpper = c :=
      forall_of_ascii (P := fun c => isNameSeparator c → c.toUpper = c) (by decide) hlt
    rw [upperChar_of_lt hlt, hself h]
  · have hblank := (toNat_of_isNameSeparator h).resolve_left (by omega)
    have hmapped := Unicode.not_mem_mapped (List.mem_append_right _ hblank)
    rw [Unicode.upperChar, if_neg hlt, Unicode.caseImage_of_not_mem hmapped, List.map_singleton,
      Char.ofNat_toNat]

end EnvAudit
