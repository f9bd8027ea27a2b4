import Mathlib.Algebra.Group.Nat.Defs
import Mathlib.Data.List.Induction
import EnvAudit.Env.Expiry
import EnvAudit.Proofs.Calendar.NextDay
import EnvAudit.Proofs.Source.LiteralAssignment

/-!
# Annotations as they are written

An annotation line is told by its parts: `#` or `//` in front or neither, the word `expire` in any
letter case and with or without `@`, white space, and ten characters of the form `dddd-dd-dd`
(`annotation?_eq_some`).  The ten characters stand for the date that is written with them; digits of
other scripts have the form and stand for none (`readDate?_eq_some`).
-/

namespace EnvAudit

/-! ## 1. Numbers in decimal -/

theorem readDigits_eq_some {acc n : Nat} {s : Text} :
    readDigits acc s = some n ↔ (∀ c ∈ s, isAsciiDigit c) ∧ Nat.ofDigitChars 10 s acc = n := by
  induction s generalizing acc with
  | nil => simp [readDigits, Nat.ofDigitChars_nil]
  | cons c s ih =>
    rw [readDigits, digitValue?, Nat.ofDigitChars_cons, List.forall_mem_cons]
    by_cases hc : isAsciiDigit c
    · rw [if_pos hc, Option.bind_some, ih, and_iff_right hc]
      rfl
    · simp [hc]

theorem isAsciiDigit_of_mem_ofNatPadded {w n : Nat} {c : Char} (h : c ∈ Text.ofNatPadded w n) :
    isAsciiDigit c := by
  rcases List.mem_append.mp h with hzero | hdigit
  · rw [List.eq_of_mem_replicate hzero]
    decide
  · have hc : c.isDigit := Nat.isDigit_of_mem_toDigits (by decide) (by decide) hdigit
    rw [Char.isDigit, Bool.and_eq_true, decide_eq_true_eq, decide_eq_true_eq] at hc
    rw [isAsciiDigit_iff]
    exact hc

theorem readDigits_ofNatPadded (w n : Nat) : readDigits 0 (Text.ofNatPadded w n) = some n := by
  rw [readDigits_eq_some]
  refine ⟨fun c hc => isAsciiDigit_of_mem_ofNatPadded hc, ?_⟩
  show Nat.ofDigitChars 10 (List.replicate _ '0' ++ Nat.toDigits 10 n) 0 = n
  rw [Nat.ofDigitChars_append, Nat.ofDigitChars_replicate_zero, Nat.mul_zero,
    Nat.ofDigitChars_ten_toDigits]

theorem length_ofNatPadded {w n : Nat} (hw : 0 < w) (h : n < 10 ^ w) :
    (Text.ofNatPadded w n).length = w := by
  have hle : (Text.ofNat n).length ≤ w := (Nat.length_toDigits_le_iff (by decide) hw).mpr h
  show (List.replicate (w - (Text.ofNat n).length) '0' ++ Text.ofNat n).length = w
  rw [List.length_append, List.length_replicate]
  omega

/-- One more digit in a field one wider. -/
theorem ofNatPadded_succ {w d : Nat} (n : Nat) (hw : 0 < w) (hd : d < 10) :
    Text.ofNatPadded (w + 1) (10 * n + d) = Text.ofNatPadded w n ++ [d.digitChar] := by
  unfold Text.ofNatPadded Text.ofNat
  rcases Nat.eq_zero_or_pos n with rfl | hn
  · obtain ⟨w, rfl⟩ := Nat.exists_eq_succ_of_ne_zero (Nat.pos_iff_ne_zero.mp hw)
    rw [Nat.mul_zero, Nat.zero_add, Nat.toDigits_of_lt_base hd, Nat.toDigits_zero]
    simp [List.replicate_succ']
  · rw [← Nat.toDigits_append_toDigits (by decide) hn hd, Nat.toDigits_of_lt_base hd]
    simp [List.append_assoc]

theorem digitChar_sub {c : Char} (h : isAsciiDigit c) : (c.toNat - 48).digitChar = c := by
  have hcode := isAsciiDigit_iff.mp h
  apply Char.toNat_inj.mp
  rw [Nat.toNat_digitChar_of_lt_ten (by omega)]
  omega

/-- Digits are the number they write, in a field as wide as they are. -/
theorem ofNatPadded_ofDigitChars {s : Text} (hne : s ≠ []) (h : ∀ c ∈ s, isAsciiDigit c) :
    Text.ofNatPadded s.length (Nat.ofDigitChars 10 s 0) = s := by
  induction s using List.reverseRecOn with
  | nil => exact absurd rfl hne
  | append_singleton s c ih =>
    rw [List.forall_mem_append, List.forall_mem_singleton] at h
    have hcode := isAsciiDigit_iff.mp h.2
    have hd : c.toNat - 48 < 10 := by omega
    have hlast : Nat.ofDigitChars 10 (s ++ [c]) 0
        = 10 * Nat.ofDigitChars 10 s 0 + (c.toNat - 48) := by
      rw [Nat.ofDigitChars_append, Nat.ofDigitChars_cons, Nat.ofDigitChars_nil]
      rfl
    rw [hlast, List.length_append, List.length_singleton]
    cases s with
    | nil =>
      rw [Nat.ofDigitChars_nil, Nat.mul_zero, Nat.zero_add]
      unfold Text.ofNatPadded Text.ofNat
      rw [Nat.toDigits_of_lt_base hd, digitChar_sub h.2]
      rfl
    | cons a s =>
      have hpos : 0 < (a :: s).length := Nat.succ_pos s.length
      rw [ofNatPadded_succ _ hpos hd, ih (List.cons_ne_nil a s) h.1, digitChar_sub h.2]

theorem ofNatPadded_of_readDigits {s : Text} {w n : Nat} (hlength : s.length = w) (hw : 0 < w)
    (h : readDigits 0 s = some n) : Text.ofNatPadded w n = s := by
  rw [readDigits_eq_some] at h
  rw [← h.2, ← hlength]
  exact ofNatPadded_ofDigitChars (List.ne_nil_of_length_pos (hlength ▸ hw)) h.1

/-! ## 2. Dates in decimal -/

/-- Three runs of digits of any script, four, two and two of them, with dashes between. -/
structure HasDateShape (written year month day : Text) : Prop where
  eq : written = year ++ '-' :: (month ++ '-' :: day)
  length_year : year.length = 4
  length_month : month.length = 2
  length_day : day.length = 2
  digits : ∀ c ∈ year ++ month ++ day, isDigit c

/-- The text writes a day of the calendar, in a year of the common era or the year 0. -/
def IsDateText (written : Text) (d : Date) : Prop :=
  d.isValid ∧ 0 ≤ d.year ∧ d.toText = written

theorem lt_of_isValid {d : Date} (h : d.isValid) : d.month < 100 ∧ d.day < 100 := by
  have hdays := (daysInMonth_bounds d.year d.month).2
  rw [isValid_iff] at h
  omega

theorem Date.toText_eq (d : Date) :
    d.toText = Text.ofNatPadded 4 d.year.toNat
      ++ '-' :: (Text.ofNatPadded 2 d.month ++ '-' :: Text.ofNatPadded 2 d.day) := by
  simp [Date.toText]

namespace HasDateShape

variable {written year month day : Text}

theorem take_four (h : HasDateShape written year month day) : written.take 4 = year := by
  rw [h.eq, ← h.length_year, List.take_left]

theorem drop_five (h : HasDateShape written year month day) :
    written.drop 5 = month ++ '-' :: day := by
  rw [h.eq, List.append_cons year '-']
  exact List.drop_left' (by rw [List.length_append, h.length_year]; rfl)

theorem take_drop_five (h : HasDateShape written year month day) :
    (written.drop 5).take 2 = month := by
  rw [h.drop_five, ← h.length_month, List.take_left]

theorem take_drop_eight (h : HasDateShape written year month day) :
    (written.drop 8).take 2 = day := by
  have hdrop : (written.drop 5).drop 3 = day := by
    rw [h.drop_five, List.append_cons month '-']
    exact List.drop_left' (by rw [List.length_append, h.length_month]; rfl)
  rw [List.drop_drop] at hdrop
  rw [hdrop, ← h.length_day, List.take_length]

end HasDateShape

/-- A text that has the form of a date is read as the date that is written so. -/
theorem readDate?_eq_some {written year month day : Text} {d : Date}
    (h : HasDateShape written year month day) :
    readDate? written = some d ↔ IsDateText written d := by
  unfold readDate? IsDateText
  simp only [Option.bind_eq_bind, h.take_four, h.take_drop_five, h.take_drop_eight,
    Option.bind_eq_some_iff, Option.ite_none_right_eq_some, Option.some.injEq]
  constructor
  · rintro ⟨y, hy, m, hm, n, hn, hvalid, rfl⟩
    refine ⟨hvalid, Int.natCast_nonneg y, ?_⟩
    rw [Date.toText_eq, h.eq]
    show Text.ofNatPadded 4 y ++ _ = _
    rw [ofNatPadded_of_readDigits h.length_year (by decide) hy,
      ofNatPadded_of_readDigits h.length_month (by decide) hm,
      ofNatPadded_of_readDigits h.length_day (by decide) hn]
  · rintro ⟨hvalid, hera, htext⟩
    rw [Date.toText_eq, h.eq] at htext
    have hmonth := length_ofNatPadded (w := 2) (by decide) (lt_of_isValid hvalid).1
    have hday := length_ofNatPadded (w := 2) (by decide) (lt_of_isValid hvalid).2
    -- the ends are of one length, so the beginnings are
    have hends := List.append_inj_right' htext
      (by simp [hmonth, hday, h.length_month, h.length_day])
    have hyear := List.append_cancel_right (hends ▸ htext)
    rcases List.append_inj (List.cons.inj hends).2 (hmonth.trans h.length_month.symm) with
      ⟨hm, hn⟩
    have hdate : (⟨(d.year.toNat : Int), d.month, d.day⟩ : Date) = d := by
      rw [Int.toNat_of_nonneg hera]
    refine ⟨d.year.toNat, ?_, d.month, ?_, d.day, ?_, ?_, hdate⟩
    · rw [← hyear, readDigits_ofNatPadded]
    · rw [← hm, readDigits_ofNatPadded]
    · rw [← (List.cons.inj hn).2, readDigits_ofNatPadded]
    · rw [hdate]
      exact hvalid

/-! ## 3. Readers by what they take -/

theorem afterExactly?_eq_some {p : Char → Bool} {n : Nat} {s rest : Text} :
    Text.afterExactly? p n s = some rest
      ↔ ∃ w, s = w ++ rest ∧ w.length = n ∧ ∀ c ∈ w, p c := by
  induction n generalizing s with
  | zero => simp [Text.afterExactly?]
  | succ n ih =>
    simp only [Text.afterExactly?, Option.bind_eq_some_iff, afterOne?_eq_some, ih]
    constructor
    · intro h
      rcases h with ⟨_, ⟨c, hc, rfl⟩, w, rfl, hlength, hw⟩
      exact ⟨c :: w, rfl, congrArg Nat.succ hlength, List.forall_mem_cons.mpr ⟨hc, hw⟩⟩
    · intro h
      rcases h with ⟨w, rfl, hlength, hw⟩
      cases w with
      | nil => cases hlength
      | cons c w =>
        rw [List.forall_mem_cons] at hw
        exact ⟨w ++ rest, ⟨c, hw.1, rfl⟩, w, rfl, Nat.succ.inj hlength, hw.2⟩

theorem afterAnyCase?_eq_some {w s rest : Text} :
    Text.afterAnyCase? w s = some rest ↔ ∃ u, s = u ++ rest ∧ u.map Char.toLower = w := by
  induction w generalizing s with
  | nil => simp [Text.afterAnyCase?]
  | cons a w ih =>
    cases s with
    | nil => simp [Text.afterAnyCase?]
    | cons c s =>
      have hcons : (∃ u, c :: s = u ++ rest ∧ u.map Char.toLower = a :: w)
          ↔ a = c.toLower ∧ ∃ u, s = u ++ rest ∧ u.map Char.toLower = w := by
        constructor
        · intro h
          rcases h with ⟨u, hu, hmap⟩
          cases u with
          | nil => cases hmap
          | cons b u =>
            rcases List.cons.inj hu with ⟨rfl, htail⟩
            rcases List.cons.inj hmap with ⟨hhead, hrest⟩
            exact ⟨hhead.symm, u, htail, hrest⟩
        · intro h
          rcases h with ⟨rfl, u, rfl, rfl⟩
          exact ⟨c :: u, rfl, rfl⟩
      rw [hcons, Text.afterAnyCase?, ← ih]
      exact Option.ite_none_right_eq_some

theorem afterRun?_eq_some {p : Char → Bool} {n : Nat} {s rest : Text} :
    Text.afterRun? p n s = some rest
      ↔ ∃ w, s = w ++ rest ∧ n ≤ w.length ∧ (∀ c ∈ w, p c) ∧ rest.head?.all (!p ·) := by
  rw [Text.afterRun?, Option.ite_none_right_eq_some, Option.some.injEq]
  constructor
  · intro h
    rcases span_eq_iff.mp ⟨rfl, h.2⟩ with ⟨hs, hw, hhead⟩
    exact ⟨_, hs, h.1, hw, hhead⟩
  · intro h
    rcases h with ⟨w, hs, hlength, hw, hhead⟩
    rcases span_eq_iff.mpr ⟨hs, hw, hhead⟩ with ⟨rfl, hrest⟩
    exact ⟨hlength, hrest⟩

theorem afterDateShape?_eq_some {s rest : Text} :
    afterDateShape? s = some rest
      ↔ ∃ written, s = written ++ rest ∧ ∃ year month day, HasDateShape written year month day := by
  unfold afterDateShape?
  simp only [Option.bind_eq_bind, Option.bind_eq_some_iff, afterExactly?_eq_some,
    Text.after?_eq_some]
  constructor
  · intro h
    rcases h with ⟨_, ⟨year, rfl, hyear, hydigits⟩, _, rfl, _, ⟨month, rfl, hmonth, hmdigits⟩,
      _, rfl, day, rfl, hday, hddigits⟩
    refine ⟨year ++ '-' :: (month ++ '-' :: day), by simp [List.append_assoc], year, month, day,
      rfl, hyear, hmonth, hday, ?_⟩
    simp only [List.forall_mem_append]
    exact ⟨⟨hydigits, hmdigits⟩, hddigits⟩
  · intro h
    rcases h with ⟨written, rfl, year, month, day, rfl, hyear, hmonth, hday, hdigits⟩
    simp only [List.forall_mem_append] at hdigits
    refine ⟨_, ⟨year, by simp [List.append_assoc], hyear, hdigits.1.1⟩, _, rfl, _,
      ⟨month, rfl, hmonth, hdigits.1.2⟩, _, rfl, day, rfl, hday, hdigits.2⟩

/-! ## 4. What stops white space -/

/-- The ranges of a table that is given by its characters. -/
theorem ranges_ofHex_ofList (l : List Char) :
    (CharSet.ofHex (String.ofList l)).ranges
      = (CharSet.tableWordsFrom [] l).map CharSet.readRange := by
  rw [CharSet.ofHex, CharSet.tableWords, String.toList_ofList]

set_option maxRecDepth 100000 in
/-- White space lies outside every run of digits. -/
theorem decimalNumber_ranges :
    ∀ r ∈ Unicode.decimalNumber.ranges, 0x20 < r.1 ∧ r.2 < 0x85 ∨ 0xA0 < r.1 ∧ r.2 < 0x1680
      ∨ 0x1680 < r.1 ∧ r.2 < 0x2000 ∨ 0x3000 < r.1 := by
  -- the characters take the place of the literal, which would be taken apart at every step
  have htable : Unicode.decimalNumber.ranges = List.map CharSet.readRange _ :=
    ranges_ofHex_ofList _
  rw [htable]
  decide +kernel

theorem isBlank_eq_false_of_isDigit {c : Char} (h : isDigit c) : isBlank c = false := by
  rw [Bool.eq_false_iff]
  intro hblank
  simp only [isBlank, Bool.or_eq_true, Bool.and_eq_true, decide_eq_true_eq, beq_iff_eq] at hblank
  unfold isDigit at h
  split at h
  next =>
    have hcode := isAsciiDigit_iff.mp h
    omega
  next =>
    rcases List.any_eq_true.mp h with ⟨r, hr, hcode⟩
    have hrange := decimalNumber_ranges r hr
    rw [Bool.and_eq_true, decide_eq_true_eq, decide_eq_true_eq] at hcode
    omega

theorem eq_of_toLower_eq {c : Char} (h : c.toLower = 'e') : c = 'e' ∨ c = 'E' := by
  unfold Char.toLower at h
  split at h
  next =>
    have hval : c.val + ('a'.val - 'A'.val) = 'e'.val := congrArg Char.val h
    exact Or.inr (Char.ext (by grind))
  next => exact Or.inl h

theorem HasDateShape.head?_append {written year month day : Text}
    (h : HasDateShape written year month day) (rest : Text) :
    ∀ c ∈ (written ++ rest).head?, isBlank c = false := by
  have hyear : ∀ c ∈ year, isBlank c = false := fun c hc =>
    isBlank_eq_false_of_isDigit
      (h.digits c (List.mem_append_left day (List.mem_append_left month hc)))
  rw [h.eq, List.append_assoc]
  apply forall_mem_head?_append hyear
  intro c hc
  cases hc
  decide

theorem HasDateShape.length_eq {written year month day : Text}
    (h : HasDateShape written year month day) : written.length = 10 := by
  rw [h.eq, List.length_append, List.length_cons, List.length_append, List.length_cons,
    h.length_year, h.length_month, h.length_day]

/-! ## 5. Annotation lines -/

/-- How a line gives a date: the parts that the line falls into. -/
structure ExpireLine (line : Text) where
  lead : Text
  gap : Text
  mark : Text
  word : Text
  space : Text
  written : Text
  rest : Text
  line_eq : line = lead ++ (gap ++ (mark ++ (word ++ (space ++ (written ++ rest)))))
  isLead : lead = [] ∨ lead = ['#'] ∨ lead = ['/', '/']
  isGap : ∀ c ∈ gap, isBlank c
  isMark : mark = [] ∨ mark = ['@']
  isWord : word.map Char.toLower = "expire".toList
  isSpace : space ≠ [] ∧ ∀ c ∈ space, isBlank c
  hasDateShape : ∃ year month day, HasDateShape written year month day

/-- The text after the comment sign at the front of a line, or the line without one. -/
def withoutLead (line : Text) : Text :=
  (Text.after? ['#'] line <|> Text.after? ['/', '/'] line).getD line

theorem exists_lead (line : Text) :
    ∃ lead, line = lead ++ withoutLead line
      ∧ (lead = [] ∨ lead = ['#'] ∨ lead = ['/', '/']) := by
  unfold withoutLead
  cases hhash : Text.after? ['#'] line with
  | some s => exact ⟨['#'], Text.after?_eq_some.mp hhash, Or.inr (Or.inl rfl)⟩
  | none =>
    cases hslash : Text.after? ['/', '/'] line with
    | some s => exact ⟨['/', '/'], Text.after?_eq_some.mp hslash, Or.inr (Or.inr rfl)⟩
    | none => exact ⟨[], rfl, Or.inl rfl⟩

theorem withoutLead_append {lead s : Text} (hlead : lead = [] ∨ lead = ['#'] ∨ lead = ['/', '/'])
    (hs : ∀ c ∈ s.head?, c ≠ '#' ∧ c ≠ '/') : withoutLead (lead ++ s) = s := by
  rcases hlead with rfl | rfl | rfl
  · cases s with
    | nil => rfl
    | cons c s =>
      have hc := hs c rfl
      simp [withoutLead, Text.after?, Ne.symm hc.1, Ne.symm hc.2]
  · rfl
  · rfl

theorem exists_dropWord (w s : Text) :
    ∃ front, s = front ++ Text.dropWord w s ∧ (front = [] ∨ front = w) := by
  unfold Text.dropWord
  cases hafter : Text.after? w s with
  | some t => exact ⟨w, Text.after?_eq_some.mp hafter, Or.inr rfl⟩
  | none => exact ⟨[], rfl, Or.inl rfl⟩

theorem dropWord_append {a : Char} {mark s : Text} (hmark : mark = [] ∨ mark = [a])
    (hs : ∀ c ∈ s.head?, c ≠ a) : Text.dropWord [a] (mark ++ s) = s := by
  rcases hmark with rfl | rfl
  · cases s with
    | nil => rfl
    | cons c s => simp [Text.dropWord, Text.after?, Ne.symm (hs c rfl)]
  · simp [Text.dropWord, Text.after?]

theorem head?_of_isWord {word : Text} (h : word.map Char.toLower = "expire".toList) (s : Text) :
    ∀ c ∈ (word ++ s).head?, c = 'e' ∨ c = 'E' := by
  cases word with
  | nil => cases h
  | cons a word =>
    intro c hc
    cases hc
    exact eq_of_toLower_eq (List.cons.inj h).1

/-- The reader of annotations takes exactly the lines that give a date, and returns its text. -/
theorem annotation?_eq_some {line written : Text} :
    annotation? line = some written ↔ ∃ a : ExpireLine line, a.written = written := by
  have hread : annotation? line = some written
      ↔ ∃ s, Text.afterAnyCase? "expire".toList
          (Text.dropWord ['@'] ((withoutLead line).dropWhile isBlank)) = some s
        ∧ ∃ t, Text.afterRun? isBlank 1 s = some t
        ∧ ∃ rest, afterDateShape? t = some rest ∧ t.take 10 = written := by
    unfold annotation? withoutLead
    simp only [Option.bind_eq_bind, Option.bind_eq_some_iff, Option.pure_def, Option.some.injEq]
  rw [hread]
  simp only [afterAnyCase?_eq_some, afterRun?_eq_some, afterDateShape?_eq_some]
  constructor
  · intro h
    rcases h with ⟨_, ⟨word, hword, isWord⟩, _, ⟨space, rfl, hlength, isSpace, _⟩, rest,
      ⟨found, rfl, hshape⟩, rfl⟩
    rcases exists_lead line with ⟨lead, hlead, isLead⟩
    generalize hgap : (withoutLead line).dropWhile isBlank = s at hword
    rcases exists_of_dropWhile_eq hgap with ⟨gap, hgap, isGap⟩
    rcases exists_dropWord ['@'] s with ⟨mark, hmark, isMark⟩
    rcases hshape with ⟨year, month, day, hshape⟩
    have hline : line = lead ++ (gap ++ (mark ++ (word ++ (space ++ (found ++ rest))))) := by
      rw [← hword, ← hmark, ← hgap, ← hlead]
    refine ⟨⟨lead, gap, mark, word, space, found, rest, hline, isLead, isGap, isMark, isWord,
      ⟨List.ne_nil_of_length_pos hlength, isSpace⟩, year, month, day, hshape⟩, ?_⟩
    show found = (found ++ rest).take 10
    rw [← hshape.length_eq, List.take_left]
  · intro h
    rcases h with ⟨⟨lead, gap, mark, word, space, found, rest, rfl, isLead, isGap, isMark, isWord,
      isSpace, year, month, day, hshape⟩, rfl⟩
    have hword := head?_of_isWord isWord (space ++ (found ++ rest))
    -- no part is followed by what it could go on with
    have hmark : ∀ c ∈ (word ++ (space ++ (found ++ rest))).head?, c ≠ '@' := by
      intro c hc
      rcases hword c hc with rfl | rfl <;> decide
    have hgap : ∀ c ∈ (mark ++ (word ++ (space ++ (found ++ rest)))).head?,
        isBlank c = false ∧ c ≠ '#' ∧ c ≠ '/' := by
      apply forall_mem_head?_append
      · rcases isMark with rfl | rfl
        · exact List.forall_mem_nil _
        · exact List.forall_mem_singleton.mpr (by decide)
      · intro c hc
        rcases hword c hc with rfl | rfl <;> decide
    have hlead : ∀ c ∈ (gap ++ (mark ++ (word ++ (space ++ (found ++ rest))))).head?,
        c ≠ '#' ∧ c ≠ '/' := by
      apply forall_mem_head?_append
      · intro c hc
        have hblank := isGap c hc
        exact ⟨fun h => absurd (h ▸ hblank) (by decide), fun h => absurd (h ▸ hblank) (by decide)⟩
      · intro c hc
        exact (hgap c hc).2
    have hplain := head?_all_not fun c hc => (hgap c hc).1
    refine ⟨space ++ (found ++ rest), ⟨word, ?_, isWord⟩, found ++ rest, ⟨space, rfl,
      List.length_pos_iff.mpr isSpace.1, isSpace.2, head?_all_not (hshape.head?_append rest)⟩,
      rest, ⟨found, rfl, year, month, day, hshape⟩, ?_⟩
    · rw [withoutLead_append isLead hlead,
        (span_eq_iff.mpr ⟨rfl, isGap, hplain⟩).2, dropWord_append isMark hmark]
    · show (found ++ rest).take 10 = found
      rw [← hshape.length_eq, List.take_left]

end EnvAudit
