import Mathlib.Algebra.Group.Nat.Defs
import Mathlib.Data.List.Basic
import Mathlib.Logic.Function.Basic
import EnvAudit.Text.Utf8

/-!
# Bytes shown as text

The bytes of a text are shown as that text (`lossy_bytes`), so texts with the same bytes are the
same.  A byte below 128 is a character by itself wherever it stands (`lossy_append_cons`), and no
other byte is part of one: a character below 128 is shown just if its byte is there
(`mem_lossy_iff`).  So bytes can be cut at a slash or a dot before they are shown.  The invariant
behind the second is that what is begun has a code point of 128 or more, whatever bytes are to come
(`Begun.IsLong`).
-/

namespace EnvAudit.Text

theorem toNat_ofNat {n : Nat} (h : n.isValidChar) : (Char.ofNat n).toNat = n := by
  rw [Char.ofNat, dif_pos h]
  rfl

theorem isValidChar_of_lt {n : Nat} (h : n < 128) : n.isValidChar :=
  Or.inl (Nat.lt_trans h (by decide))

namespace Begun

variable {p : Begun} {code v b : Nat} {range : Nat × Nat} {tail : List (Nat × Nat)}

/-! ## 1. Steps -/

theorem toText_nil (p : Begun) : p.toText [] = if p.tail = [] then [] else [replacement] := rfl

theorem toText_cons (p : Begun) (b : UInt8) (bs : List UInt8) :
    p.toText (b :: bs) = (p.next b.toNat).1 ++ (p.next b.toNat).2.toText bs := rfl

theorem toText_cons_ofNat {n : Nat} (hn : n < 256) (p : Begun) (bs : List UInt8) :
    p.toText (UInt8.ofNat n :: bs) = (p.next n).1 ++ (p.next n).2.toText bs := by
  rw [toText_cons, UInt8.toNat_ofNat_of_lt' hn]

theorem first_of_lt (h : b < 128) : first b = ([Char.ofNat b], nothing) := if_pos h

theorem first_of_tailRanges (h : tailRanges b = range :: tail) :
    first b = ([], ⟨b % (64 >>> (range :: tail).length), range :: tail⟩) := by
  have hb : ¬ b < 128 := by
    intro hlt
    rw [tailRanges, if_pos (by omega)] at h
    cases h
  rw [first, if_neg hb, h]

theorem next_nothing (b : Nat) : nothing.next b = first b := rfl

theorem next_last (h : range.1 ≤ b ∧ b ≤ range.2) :
    next ⟨code, [range]⟩ b = ([Char.ofNat (code * 64 + b % 64)], nothing) := if_pos h

theorem next_inside {range' : Nat × Nat} (h : range.1 ≤ b ∧ b ≤ range.2) :
    next ⟨code, range :: range' :: tail⟩ b = ([], ⟨code * 64 + b % 64, range' :: tail⟩) := if_pos h

theorem next_outside (h : ¬ (range.1 ≤ b ∧ b ≤ range.2)) :
    next ⟨code, range :: tail⟩ b = (replacement :: (first b).1, (first b).2) := if_neg h

/-! ## 2. Characters -/

theorem tailRanges_two (h : 128 ≤ v) (h' : v < 2048) :
    tailRanges (v / 64 + 192) = [(128, 191)] := by
  rw [tailRanges, if_neg (by omega), if_pos (by omega)]

/-- The second of three bytes says whether the code point could have had two, or is no character. -/
theorem exists_tailRanges_three (h : 2048 ≤ v) (h' : v < 65536) (hv : v < 0xD800 ∨ 0xDFFF < v) :
    ∃ range, tailRanges (v / 4096 + 224) = [range, (128, 191)]
      ∧ range.1 ≤ v / 64 % 64 + 128 ∧ v / 64 % 64 + 128 ≤ range.2 := by
  unfold tailRanges
  split_ifs
  all_goals
    simp only [List.cons.injEq, and_true, exists_eq_left', reduceCtorEq, false_and, exists_false,
      List.nil_eq, and_false]
    omega

/-- The second of four bytes says whether the code point could have had three, or is too great. -/
theorem exists_tailRanges_four (h : 65536 ≤ v) (h' : v < 0x110000) :
    ∃ range, tailRanges (v / 262144 + 240) = [range, (128, 191), (128, 191)]
      ∧ range.1 ≤ v / 4096 % 64 + 128 ∧ v / 4096 % 64 + 128 ≤ range.2 := by
  unfold tailRanges
  split_ifs
  all_goals
    simp only [List.cons.injEq, and_true, exists_eq_left', reduceCtorEq, false_and, exists_false,
      List.nil_eq, and_false]
    omega

theorem mem_tail (n : Nat) : (128, 191).1 ≤ n % 64 + 128 ∧ n % 64 + 128 ≤ (128, 191).2 := by
  dsimp only
  omega

/-- The bytes of a character are shown as the character. -/
theorem toText_utf8EncodeChar (c : Char) (bs : List UInt8) :
    nothing.toText (String.utf8EncodeChar c ++ bs) = c :: nothing.toText bs := by
  have hc : c.toNat < 0xD800 ∨ 0xDFFF < c.toNat ∧ c.toNat < 0x110000 := c.valid
  have hofNat : Char.ofNat c.toNat = c := Char.ofNat_toNat c
  unfold String.utf8EncodeChar Char.toNat at *
  generalize c.val.toNat = v at hc hofNat ⊢
  dsimp only
  -- one to four bytes; the code point is put together again from what they leave of it
  split_ifs with h₁ h₂ h₃
  · rw [List.singleton_append, toText_cons_ofNat (by omega), next_nothing, first_of_lt (by omega),
      hofNat]
    rfl
  · have hcode : (v / 64 + 192) % 32 * 64 + (v % 64 + 128) % 64 = v := by omega
    rw [Nat.mod_eq_of_lt (a := v / 64) (by omega), List.cons_append, List.singleton_append,
      toText_cons_ofNat (by omega), next_nothing,
      first_of_tailRanges (tailRanges_two (by omega) (by omega)),
      toText_cons_ofNat (by omega), next_last (mem_tail v)]
    dsimp only [List.length, Nat.reduceAdd, Nat.reduceShiftRight]
    rw [hcode, hofNat]
    rfl
  · obtain ⟨range, hranges, hrange⟩ :=
      exists_tailRanges_three (v := v) (by omega) (by omega) (by omega)
    have hcode : ((v / 4096 + 224) % 16 * 64 + (v / 64 % 64 + 128) % 64) * 64
        + (v % 64 + 128) % 64 = v := by omega
    rw [Nat.mod_eq_of_lt (a := v / 4096) (by omega), List.cons_append, List.cons_append,
      List.singleton_append, toText_cons_ofNat (by omega), next_nothing,
      first_of_tailRanges hranges, toText_cons_ofNat (by omega), next_inside hrange,
      toText_cons_ofNat (by omega), next_last (mem_tail v)]
    dsimp only [List.length, Nat.reduceAdd, Nat.reduceShiftRight]
    rw [hcode, hofNat]
    rfl
  · obtain ⟨range, hranges, hrange⟩ := exists_tailRanges_four (v := v) (by omega) (by omega)
    have hcode : (((v / 262144 + 240) % 8 * 64 + (v / 4096 % 64 + 128) % 64) * 64
        + (v / 64 % 64 + 128) % 64) * 64 + (v % 64 + 128) % 64 = v := by omega
    rw [Nat.mod_eq_of_lt (a := v / 262144) (by omega), List.cons_append, List.cons_append,
      List.cons_append, List.singleton_append, toText_cons_ofNat (by omega), next_nothing,
      first_of_tailRanges hranges, toText_cons_ofNat (by omega), next_inside hrange,
      toText_cons_ofNat (by omega), next_inside (mem_tail (v / 64)), toText_cons_ofNat (by omega),
      next_last (mem_tail v)]
    dsimp only [List.length, Nat.reduceAdd, Nat.reduceShiftRight]
    rw [hcode, hofNat]
    rfl

/-! ## 3. Bytes below 128 -/

/-- What is begun does not go on with a byte below 128, and becomes no character below 128. -/
structure IsLong (p : Begun) : Prop where
  range : ∀ r ∈ p.tail, 128 ≤ r.1 ∧ r.2 < 192
  le_code : ∀ r tail, p.tail = r :: tail → 128 ≤ (p.code * 64 + r.1 % 64) * 64 ^ tail.length

theorem isLong_nothing : nothing.IsLong := ⟨List.forall_mem_nil _, nofun⟩

theorem isLong_first (b : Nat) : (first b).2.IsLong := by
  by_cases hb : b < 128
  · rw [first_of_lt hb]
    exact isLong_nothing
  cases htail : tailRanges b with
  | nil =>
    rw [first, if_neg hb, htail]
    exact isLong_nothing
  | cons r tail =>
    rw [first_of_tailRanges htail]
    -- each row of the table
    unfold tailRanges at htail
    split_ifs at htail
    all_goals
      cases htail
      refine ⟨by dsimp only; decide, ?_⟩
      rintro _ _ ⟨⟩
      dsimp only [List.length, Nat.reduceAdd, Nat.reduceShiftRight]
      omega

/-- A byte that goes on with what is begun leaves the code point as great. -/
theorem IsLong.le_code_of_range (h : IsLong ⟨code, range :: tail⟩)
    (hb : range.1 ≤ b ∧ b ≤ range.2) : 128 ≤ (code * 64 + b % 64) * 64 ^ tail.length := by
  have hrange := h.range range List.mem_cons_self
  refine Nat.le_trans (h.le_code range tail rfl) (Nat.mul_le_mul_right _ ?_)
  dsimp only
  omega

theorem IsLong.next (h : p.IsLong) (b : Nat) : (p.next b).2.IsLong := by
  obtain ⟨code, _ | ⟨range, tail⟩⟩ := p
  · exact isLong_first b
  by_cases hb : range.1 ≤ b ∧ b ≤ range.2
  · cases tail with
    | nil =>
      rw [next_last hb]
      exact isLong_nothing
    | cons range' tail =>
      rw [next_inside hb]
      refine ⟨fun r hr => h.range r (List.mem_cons_of_mem range hr), ?_⟩
      rintro _ _ ⟨⟩
      have hle := h.le_code_of_range hb
      rw [List.length_cons, Nat.pow_succ, Nat.mul_comm (64 ^ _), ← Nat.mul_assoc] at hle
      exact Nat.le_trans hle (Nat.mul_le_mul_right _ (Nat.le_add_right _ _))
  · rw [next_outside hb]
    exact isLong_first b

theorem toNat_of_mem_first {c : Char} (hc : c.toNat < 128) (hmem : c ∈ (first b).1) :
    c.toNat = b := by
  unfold first at hmem
  split_ifs at hmem with hb
  · rw [List.mem_singleton.mp hmem, toNat_ofNat (isValidChar_of_lt hb)]
  · split at hmem
    next =>
      rw [List.mem_singleton.mp hmem] at hc
      exact absurd hc (by decide)
    next => cases hmem

section

variable {c : Char} (hpos : 0 < c.toNat) (hc : c.toNat < 128)
include hpos hc

/-- A number that is no code point becomes the character 0, and no other below 128. -/
theorem ofNat_ne {n : Nat} (hn : 128 ≤ n) : Char.ofNat n ≠ c := by
  rintro rfl
  by_cases hvalid : n.isValidChar
  · rw [toNat_ofNat hvalid] at hc
    exact absurd hn (Nat.not_le.mpr hc)
  · rw [Char.ofNat, dif_neg hvalid] at hpos
    exact Nat.lt_irrefl 0 hpos

theorem IsLong.toNat_of_mem_next (h : p.IsLong) (hmem : c ∈ (p.next b).1) : c.toNat = b := by
  obtain ⟨code, _ | ⟨range, tail⟩⟩ := p
  · exact toNat_of_mem_first hc hmem
  by_cases hb : range.1 ≤ b ∧ b ≤ range.2
  · cases tail with
    | nil =>
      have hle := h.le_code_of_range hb
      rw [List.length_nil, Nat.pow_zero, Nat.mul_one] at hle
      rw [next_last hb, List.mem_singleton] at hmem
      exact absurd hmem.symm (ofNat_ne hpos hc hle)
    | cons range' tail =>
      rw [next_inside hb] at hmem
      cases hmem
  · rw [next_outside hb] at hmem
    obtain rfl | hmem := List.mem_cons.mp hmem
    · exact absurd hc (by decide)
    · exact toNat_of_mem_first hc hmem

theorem IsLong.mem_of_mem_toText (h : p.IsLong) {bs : List UInt8} (hmem : c ∈ p.toText bs) :
    UInt8.ofNat c.toNat ∈ bs := by
  induction bs generalizing p with
  | nil =>
    rw [toText_nil] at hmem
    split_ifs at hmem
    · cases hmem
    · rw [List.mem_singleton.mp hmem] at hc
      exact absurd hc (by decide)
  | cons b bs ih =>
    rw [toText_cons, List.mem_append] at hmem
    obtain hmem | hmem := hmem
    · rw [h.toNat_of_mem_next hpos hc hmem, UInt8.ofNat_toNat]
      exact List.mem_cons_self
    · exact List.mem_cons_of_mem b (ih (h.next _) hmem)

end

/-- What is begun is shown in some way, though not by characters below 128. -/
theorem IsLong.exists_mem_toText (h : p.IsLong) (htail : p.tail ≠ []) (bs : List UInt8) :
    ∃ c ∈ p.toText bs, ¬ (0 < c.toNat ∧ c.toNat < 128) := by
  have hreplacement : ¬ (0 < replacement.toNat ∧ replacement.toNat < 128) := by decide
  induction bs generalizing p with
  | nil =>
    rw [toText_nil, if_neg htail]
    exact ⟨replacement, List.mem_singleton.mpr rfl, hreplacement⟩
  | cons b bs ih =>
    have hnext := h.next b.toNat
    obtain ⟨code, _ | ⟨range, tail⟩⟩ := p
    · exact absurd rfl htail
    rw [toText_cons]
    by_cases hb : range.1 ≤ b.toNat ∧ b.toNat ≤ range.2
    · cases tail with
      | nil =>
        have hle := h.le_code_of_range hb
        rw [List.length_nil, Nat.pow_zero, Nat.mul_one] at hle
        rw [next_last hb]
        exact ⟨_, List.mem_cons_self, fun hc => ofNat_ne hc.1 hc.2 hle rfl⟩
      | cons range' tail =>
        rw [next_inside hb] at hnext ⊢
        exact ih hnext (List.cons_ne_nil range' tail)
    · rw [next_outside hb]
      exact ⟨replacement, List.mem_cons_self, hreplacement⟩

theorem IsLong.toText_append_cons (h : p.IsLong) {b : UInt8} (hb : b.toNat < 128)
    (s t : List UInt8) :
    p.toText (s ++ b :: t) = p.toText s ++ Char.ofNat b.toNat :: nothing.toText t := by
  induction s generalizing p with
  | nil =>
    rw [List.nil_append, toText_cons, toText_nil]
    obtain ⟨code, _ | ⟨range, tail⟩⟩ := p
    · have hnext : Begun.next ⟨code, []⟩ b.toNat = ([Char.ofNat b.toNat], nothing) := first_of_lt hb
      rw [hnext, if_pos rfl]
      rfl
    · -- what is begun ends before the byte
      have hout : ¬ (range.1 ≤ b.toNat ∧ b.toNat ≤ range.2) := fun hin =>
        absurd (h.range range List.mem_cons_self).1 (by omega)
      rw [next_outside hout, first_of_lt hb, if_neg (List.cons_ne_nil range tail)]
      rfl
  | cons a s ih => rw [List.cons_append, toText_cons, toText_cons, ih (h.next _), List.append_assoc]

end Begun

/-! ## 4. Texts -/

theorem lossy_bytes (t : Text) : lossy (bytes t) = t := by
  unfold lossy bytes
  induction t with
  | nil => rfl
  | cons c t ih => rw [List.flatMap_cons, Begun.toText_utf8EncodeChar, ih]

theorem bytes_injective : Function.Injective bytes := Function.LeftInverse.injective lossy_bytes

/-- The system encodes a text as the same bytes. -/
theorem toUTF8_eq (t : Text) : (String.ofList t).toUTF8 = (bytes t).toByteArray :=
  String.toByteArray_ofList

theorem ofUtf8?_eq_some_iff {bytes : ByteArray} {t : Text} :
    ofUtf8? bytes = some t ↔ bytes = (String.ofList t).toUTF8 := by
  unfold ofUtf8? String.fromUTF8?
  constructor
  · intro h
    rcases Option.map_eq_some_iff.mp h with ⟨s, hs, rfl⟩
    split at hs
    next hvalid =>
      cases hs
      rw [String.ofList_toList]
      rfl
    next => cases hs
  · rintro rfl
    have hvalid : (String.ofList t).toUTF8.IsValidUTF8 := (String.ofList t).isValidUTF8
    rw [dif_pos hvalid]
    exact congrArg some String.toList_ofList

theorem ofUtf8?_toByteArray {bs : List UInt8} {t : Text} :
    ofUtf8? bs.toByteArray = some t ↔ bs = bytes t := by
  rw [ofUtf8?_eq_some_iff, toUTF8_eq]
  refine ⟨fun h => ?_, fun h => congrArg _ h⟩
  rw [← List.toList_data_toByteArray (l := bs), h, List.toList_data_toByteArray]

theorem lossy_append_cons {b : UInt8} (hb : b.toNat < 128) (s t : List UInt8) :
    lossy (s ++ b :: t) = lossy s ++ Char.ofNat b.toNat :: lossy t :=
  Begun.isLong_nothing.toText_append_cons hb s t

/-- Two of the three bytes of a character come as one replacement character. -/
example : lossy [0xE2, 0x82, 0x41, 0xFF] = "\uFFFDA\uFFFD".toList := by decide

/-- Only its own bytes are shown as a text of characters below 128. -/
theorem eq_bytes_of_lossy_eq {bs : List UInt8} {t : Text}
    (ht : ∀ c ∈ t, 0 < c.toNat ∧ c.toNat < 128) (h : lossy bs = t) : bs = bytes t := by
  induction bs generalizing t with
  | nil =>
    subst h
    rfl
  | cons b bs ih =>
    by_cases hb : b.toNat < 128
    · have hcons : lossy (b :: bs) = Char.ofNat b.toNat :: lossy bs := lossy_append_cons hb [] bs
      have hchar : String.utf8EncodeChar (Char.ofNat b.toNat) = [b] := by
        have hval : (Char.ofNat b.toNat).toNat = b.toNat := toNat_ofNat (isValidChar_of_lt hb)
        unfold Char.toNat at hval
        unfold String.utf8EncodeChar
        dsimp only
        rw [hval, if_pos (by omega)]
        exact congrArg (· :: []) UInt8.ofNat_toNat
      subst h
      rw [hcons] at ht ⊢
      rw [bytes, List.flatMap_cons, hchar, List.singleton_append]
      exact congrArg (b :: ·) (ih (fun c hc => ht c (List.mem_cons_of_mem _ hc)) rfl)
    · -- the byte is shown as no character of the text
      obtain ⟨c, hc, hlong⟩ : ∃ c ∈ lossy (b :: bs), ¬ (0 < c.toNat ∧ c.toNat < 128) := by
        show ∃ c ∈ (Begun.first b.toNat).1 ++ (Begun.first b.toNat).2.toText bs, _
        have hlong := Begun.isLong_first b.toNat
        cases htail : tailRanges b.toNat with
        | nil =>
          rw [Begun.first, if_neg hb, htail]
          exact ⟨replacement, List.mem_cons_self, by decide⟩
        | cons range tail =>
          rw [Begun.first_of_tailRanges htail] at hlong ⊢
          exact hlong.exists_mem_toText (List.cons_ne_nil range tail) bs
      exact absurd (ht c (h ▸ hc)) hlong

theorem mem_lossy_iff {c : Char} (hpos : 0 < c.toNat) (hc : c.toNat < 128) {bs : List UInt8} :
    c ∈ lossy bs ↔ UInt8.ofNat c.toNat ∈ bs := by
  refine ⟨Begun.isLong_nothing.mem_of_mem_toText hpos hc, fun hmem => ?_⟩
  obtain ⟨s, t, rfl⟩ := List.append_of_mem hmem
  have hb : (UInt8.ofNat c.toNat).toNat = c.toNat :=
    UInt8.toNat_ofNat_of_lt' (Nat.lt_trans hc (by decide))
  rw [lossy_append_cons (by omega), hb, Char.ofNat_toNat]
  exact List.mem_append_right _ List.mem_cons_self

theorem mem_bytes_iff {c : Char} (hpos : 0 < c.toNat) (hc : c.toNat < 128) {t : Text} :
    UInt8.ofNat c.toNat ∈ bytes t ↔ c ∈ t := by
  rw [← mem_lossy_iff hpos hc, lossy_bytes]

end EnvAudit.Text
