import Mathlib.Data.List.Chain
import EnvAudit.Json.Reader
import EnvAudit.Proofs.Env.AnnotationText

/-!
# Tokens of JSON texts

How strings, numbers and the other tokens are written, and that the reader takes them from the
front of a text as they are written.  White space may stand between tokens.  A number ends where
no character of a number follows, so two numbers need something between them; that is the one
condition of `jsonTokens?_of_isSpelled`, and `isSpelled_of_jsonTokens?` has none.
-/

namespace EnvAudit

/-! ## 1. Strings -/

/-- What stands between the quotes of a string. -/
inductive IsStringBody : Text → Prop
  | nil : IsStringBody []
  | plain {c : Char} {s : Text} (hcontrol : 32 ≤ c.toNat) (hquote : c ≠ '"') (hslash : c ≠ '\\')
      (h : IsStringBody s) : IsStringBody (c :: s)
  | escape {c : Char} {s : Text} (hc : c ∈ "\"\\/bfnrt".toList) (h : IsStringBody s) :
      IsStringBody ('\\' :: c :: s)
  | code {a b c d : Char} {s : Text} (hex : ∀ x ∈ [a, b, c, d], isHexDigit x)
      (h : IsStringBody s) : IsStringBody ('\\' :: 'u' :: a :: b :: c :: d :: s)

theorem exists_of_splitString {s raw rest : Text} (h : splitString s = some (raw, rest)) :
    IsStringBody raw ∧ s = raw ++ '"' :: rest := by
  fun_induction splitString s generalizing raw with
  | case1 => cases h
  | case2 s =>
    cases h
    exact ⟨.nil, rfl⟩
  | case3 a b c d s hex ih =>
    obtain ⟨p, hp, heq⟩ := Option.map_eq_some_iff.mp h
    cases heq
    obtain ⟨hbody, rfl⟩ := ih hp
    exact ⟨.code (by simpa using hex) hbody, rfl⟩
  | case4 => cases h
  | case5 c s _ hc ih =>
    obtain ⟨p, hp, heq⟩ := Option.map_eq_some_iff.mp h
    cases heq
    obtain ⟨hbody, rfl⟩ := ih hp
    exact ⟨.escape (List.contains_iff_mem.mp hc) hbody, rfl⟩
  | case6 => cases h
  | case7 => cases h
  | case8 c s hquote _ _ hplain ih =>
    obtain ⟨p, hp, heq⟩ := Option.map_eq_some_iff.mp h
    cases heq
    obtain ⟨hbody, rfl⟩ := ih hp
    rw [Bool.or_eq_true, not_or, decide_eq_true_eq, beq_iff_eq, Nat.not_lt] at hplain
    exact ⟨.plain hplain.1 hquote hplain.2 hbody, rfl⟩

theorem splitString_append {raw : Text} (h : IsStringBody raw) (rest : Text) :
    splitString (raw ++ '"' :: rest) = some (raw, rest) := by
  induction h with
  | nil => rfl
  | @plain c s hcontrol hquote hslash _ ih =>
    have hplain : (decide (c.toNat < 32) || c == '\\') = false := by
      simp [hslash, Nat.not_lt.mpr hcontrol]
    rw [List.cons_append, splitString.eq_5 c _ hquote (fun _ _ _ _ _ h => absurd h hslash)
      (fun _ _ h => absurd h hslash), hplain, ih]
    rfl
  | @escape c s hc _ ih =>
    have hnot : c ≠ 'u' := by
      rintro rfl
      exact absurd hc (by decide)
    have hescape : isSimpleEscape c = true := List.contains_iff_mem.mpr hc
    rw [List.cons_append, List.cons_append, splitString.eq_4 c _ fun _ _ _ _ _ h => absurd h hnot,
      if_pos hescape, ih]
    rfl
  | @code a b c d s hex _ ih =>
    have hall : [a, b, c, d].all isHexDigit = true := by simpa using hex
    simp only [List.cons_append, splitString, hall, if_true, ih, Option.map_some]

/-! ## 2. Numbers -/

def IsDigits (s : Text) : Prop := s ≠ [] ∧ ∀ c ∈ s, isAsciiDigit c

/-- Digits with no zero in front of others. -/
def IsWholePart (s : Text) : Prop := s = ['0'] ∨ IsDigits s ∧ s.head? ≠ some '0'

def IsFraction (s : Text) : Prop := s = [] ∨ ∃ ds, s = '.' :: ds ∧ IsDigits ds

def IsExponent (s : Text) : Prop :=
  s = [] ∨ ∃ e sign ds, s = e :: (sign ++ ds) ∧ (e = 'e' ∨ e = 'E')
    ∧ (sign = [] ∨ sign = ['+'] ∨ sign = ['-']) ∧ IsDigits ds

/-- How a number is written. -/
def IsNumber (s : Text) : Prop :=
  ∃ sign whole fraction exponent, s = sign ++ (whole ++ (fraction ++ exponent))
    ∧ (sign = [] ∨ sign = ['-']) ∧ IsWholePart whole ∧ IsFraction fraction ∧ IsExponent exponent

theorem afterRun?_isAsciiDigit_eq_some {s rest : Text} :
    Text.afterRun? isAsciiDigit 1 s = some rest
      ↔ ∃ ds, s = ds ++ rest ∧ IsDigits ds ∧ rest.head?.all (!isAsciiDigit ·) := by
  rw [afterRun?_eq_some]
  refine exists_congr fun ds => and_congr_right fun _ => ?_
  rw [IsDigits, ← List.length_pos_iff, and_assoc]
  rfl

theorem exists_of_afterWholePart? {s rest : Text} (h : afterWholePart? s = some rest) :
    ∃ whole, s = whole ++ rest ∧ IsWholePart whole := by
  unfold afterWholePart? at h
  split at h
  next s =>
    cases h
    exact ⟨['0'], rfl, Or.inl rfl⟩
  next c s hzero =>
    obtain ⟨hc, h⟩ := Option.ite_none_right_eq_some.mp h
    obtain ⟨ds, rfl, hds⟩ := exists_of_dropWhile_eq (Option.some.inj h)
    refine ⟨c :: ds, rfl, Or.inr ⟨⟨List.cons_ne_nil c ds, List.forall_mem_cons.mpr ⟨hc, hds⟩⟩, ?_⟩⟩
    exact fun hhead => hzero (Option.some.inj hhead)
  next => cases h

theorem afterWholePart?_append {whole rest : Text} (hwhole : IsWholePart whole)
    (hrest : ∀ c ∈ rest.head?, isAsciiDigit c = false) :
    afterWholePart? (whole ++ rest) = some rest := by
  rcases hwhole with rfl | ⟨⟨hne, hds⟩, hhead⟩
  · rfl
  · cases whole with
    | nil => exact absurd rfl hne
    | cons c ds =>
      rw [List.forall_mem_cons] at hds
      have hzero : c ≠ '0' := fun h => hhead (congrArg some h)
      have hdrop : (ds ++ rest).dropWhile isAsciiDigit = rest :=
        (span_eq_iff.mpr ⟨rfl, hds.2, head?_all_not hrest⟩).2
      rw [List.cons_append, afterWholePart?, if_pos hds.1, hdrop]
      exact hzero

theorem exists_of_afterFraction? {s rest : Text} (h : afterFraction? s = some rest) :
    ∃ fraction, s = fraction ++ rest ∧ IsFraction fraction := by
  unfold afterFraction? at h
  split at h
  next s =>
    obtain ⟨ds, rfl, hds, -⟩ := afterRun?_isAsciiDigit_eq_some.mp h
    exact ⟨'.' :: ds, rfl, Or.inr ⟨ds, rfl, hds⟩⟩
  next =>
    cases h
    exact ⟨[], rfl, Or.inl rfl⟩

theorem afterFraction?_append {fraction rest : Text} (hfraction : IsFraction fraction)
    (hpoint : rest.head? ≠ some '.') (hrest : ∀ c ∈ rest.head?, isAsciiDigit c = false) :
    afterFraction? (fraction ++ rest) = some rest := by
  rcases hfraction with rfl | ⟨ds, rfl, hds⟩
  · rw [List.nil_append, afterFraction?]
    rintro s rfl
    exact hpoint rfl
  · exact afterRun?_isAsciiDigit_eq_some.mpr ⟨ds, rfl, hds, head?_all_not hrest⟩

/-- Digits with or without a sign in front. -/
theorem isDigits_getD_afterOne?_iff {s : Text} :
    IsDigits ((Text.afterOne? (fun c => c == '+' || c == '-') s).getD s)
      ↔ ∃ sign ds, s = sign ++ ds ∧ (sign = [] ∨ sign = ['+'] ∨ sign = ['-']) ∧ IsDigits ds := by
  constructor
  · intro h
    cases hsign : Text.afterOne? (fun c => c == '+' || c == '-') s with
    | none =>
      rw [hsign] at h
      exact ⟨[], s, rfl, Or.inl rfl, h⟩
    | some ds =>
      rw [hsign] at h
      obtain ⟨c, hc, rfl⟩ := afterOne?_eq_some.mp hsign
      rw [Bool.or_eq_true, beq_iff_eq, beq_iff_eq] at hc
      exact ⟨[c], ds, rfl, Or.inr (hc.imp (congrArg ([·])) (congrArg ([·]))), h⟩
  · rintro ⟨sign, ds, rfl, rfl | rfl | rfl, hne, hds⟩
    · cases ds with
      | nil => exact absurd rfl hne
      | cons d ds =>
        have hd := isAsciiDigit_iff.mp (hds d List.mem_cons_self)
        have hsign : (d == '+' || d == '-') = false := by
          rw [Bool.or_eq_false_iff, beq_eq_false_iff_ne, beq_eq_false_iff_ne]
          constructor <;>
          · rintro rfl
            exact absurd hd (by decide)
        rw [List.nil_append, Text.afterOne?, hsign]
        exact ⟨hne, hds⟩
    · exact ⟨hne, hds⟩
    · exact ⟨hne, hds⟩

theorem afterExponent?_eq_nil {s : Text} : afterExponent? s = some [] ↔ IsExponent s := by
  cases s with
  | nil => exact iff_of_true rfl (Or.inl rfl)
  | cons e s =>
    have hdigits {t : Text} : Text.afterRun? isAsciiDigit 1 t = some [] ↔ IsDigits t := by
      simp [afterRun?_isAsciiDigit_eq_some]
    rw [afterExponent?, IsExponent, or_iff_right (List.cons_ne_nil e s)]
    by_cases he : e = 'e' ∨ e = 'E'
    · rw [if_pos he, hdigits, isDigits_getD_afterOne?_iff]
      constructor
      · rintro ⟨sign, ds, rfl, hsign, hds⟩
        exact ⟨e, sign, ds, rfl, he, hsign, hds⟩
      · rintro ⟨_, sign, ds, heq, -, hsign, hds⟩
        exact ⟨sign, ds, (List.cons.inj heq).2, hsign, hds⟩
    · rw [if_neg he]
      refine iff_of_false (fun h => nomatch h) ?_
      rintro ⟨_, sign, ds, heq, he', -⟩
      exact he ((List.cons.inj heq).1 ▸ he')

theorem IsWholePart.head?_append {whole : Text} (h : IsWholePart whole) (rest : Text) :
    ∀ c ∈ (whole ++ rest).head?, isAsciiDigit c := by
  rcases h with rfl | ⟨⟨hne, hds⟩, -⟩
  · intro c hc
    cases hc
    decide
  · intro c hc
    obtain ⟨d, ds, rfl⟩ := List.exists_cons_of_ne_nil hne
    cases hc
    exact hds _ List.mem_cons_self

theorem IsExponent.head? {exponent : Text} (h : IsExponent exponent) :
    ∀ c ∈ exponent.head?, c = 'e' ∨ c = 'E' := by
  rcases h with rfl | ⟨e, sign, ds, rfl, he, -⟩
  · exact fun c hc => nomatch hc
  · intro c hc
    cases hc
    exact he

theorem IsFraction.head?_append {fraction exponent : Text} (h : IsFraction fraction)
    (hexponent : IsExponent exponent) :
    ∀ c ∈ (fraction ++ exponent).head?, c = '.' ∨ c = 'e' ∨ c = 'E' := by
  rcases h with rfl | ⟨ds, rfl, -⟩
  · exact fun c hc => Or.inr (hexponent.head? c hc)
  · intro c hc
    cases hc
    exact Or.inl rfl

theorem isJsonNumber_iff {s : Text} : isJsonNumber s ↔ IsNumber s := by
  have hparts : isJsonNumber s ↔ ∃ t u, afterWholePart? (Text.dropWord ['-'] s) = some t
      ∧ afterFraction? t = some u ∧ IsExponent u := by
    simp only [isJsonNumber, Option.any_eq_true, Option.bind_eq_some_iff, List.isEmpty_iff,
      ← afterExponent?_eq_nil]
    constructor
    · rintro ⟨_, ⟨u, ⟨t, ht, hu⟩, hend⟩, rfl⟩
      exact ⟨t, u, ht, hu, hend⟩
    · rintro ⟨t, u, ht, hu, hend⟩
      exact ⟨[], ⟨u, ⟨t, ht, hu⟩, hend⟩, rfl⟩
  rw [hparts]
  constructor
  · rintro ⟨t, u, ht, hu, hexponent⟩
    obtain ⟨sign, hs, hsign⟩ := exists_dropWord ['-'] s
    obtain ⟨whole, hrest, hwhole⟩ := exists_of_afterWholePart? ht
    obtain ⟨fraction, rfl, hfraction⟩ := exists_of_afterFraction? hu
    rw [hrest] at hs
    exact ⟨sign, whole, fraction, u, hs, hsign, hwhole, hfraction, hexponent⟩
  · rintro ⟨sign, whole, fraction, exponent, rfl, hsign, hwhole, hfraction, hexponent⟩
    refine ⟨fraction ++ exponent, exponent, ?_, ?_, hexponent⟩
    · rw [dropWord_append hsign]
      · refine afterWholePart?_append hwhole fun c hc => ?_
        rcases hfraction.head?_append hexponent c hc with rfl | rfl | rfl <;> decide
      · rintro c hc rfl
        exact absurd (hwhole.head?_append _ _ hc) (by decide)
    · refine afterFraction?_append hfraction ?_ fun c hc => ?_
      · intro hpoint
        rcases hexponent.head? _ hpoint with h | h <;> cases h
      · rcases hexponent.head? c hc with rfl | rfl <;> decide

/-! ## 3. One token -/

namespace JsonToken

/-- How a token is written. -/
inductive Spells : JsonToken → Text → Prop
  | openArray : Spells .openArray ['[']
  | closeArray : Spells .closeArray [']']
  | openObject : Spells .openObject ['\x7b']
  | closeObject : Spells .closeObject ['\x7d']
  | colon : Spells .colon [':']
  | comma : Spells .comma [',']
  | string {raw : Text} (h : IsStringBody raw) : Spells (.string raw) ('"' :: (raw ++ ['"']))
  | null : Spells (.atom .null) "null".toList
  | yes : Spells (.atom (.bool true)) "true".toList
  | no : Spells (.atom (.bool false)) "false".toList
  | number {digits : Text} (h : IsNumber digits) : Spells (.atom (.number digits)) digits

def IsNumeral (t : JsonToken) : Prop := ∃ digits, t = .atom (.number digits)

end JsonToken

theorem IsDigits.forall_isNumberChar {ds : Text} (h : IsDigits ds) :
    ∀ c ∈ ds, isNumberChar c := by
  intro c hc
  simp [isNumberChar, h.2 c hc]

theorem IsNumber.forall_isNumberChar {s : Text} (h : IsNumber s) : ∀ c ∈ s, isNumberChar c := by
  obtain ⟨sign, whole, fraction, exponent, rfl, hsign, hwhole, hfraction, hexponent⟩ := h
  simp only [List.forall_mem_append]
  have hnil : ∀ c ∈ ([] : Text), isNumberChar c := List.forall_mem_nil _
  refine ⟨?_, ?_, ?_, ?_⟩
  · rcases hsign with rfl | rfl
    · exact hnil
    · exact List.forall_mem_singleton.mpr rfl
  · rcases hwhole with rfl | ⟨hds, -⟩
    · exact List.forall_mem_singleton.mpr rfl
    · exact hds.forall_isNumberChar
  · rcases hfraction with rfl | ⟨ds, rfl, hds⟩
    · exact hnil
    · exact List.forall_mem_cons.mpr ⟨rfl, hds.forall_isNumberChar⟩
  · rcases hexponent with rfl | ⟨e, esign, ds, rfl, he, hesign, hds⟩
    · exact hnil
    · rw [List.forall_mem_cons, List.forall_mem_append]
      refine ⟨?_, ?_, hds.forall_isNumberChar⟩
      · rcases he with rfl | rfl <;> rfl
      · rcases hesign with rfl | rfl | rfl
        · exact hnil
        · exact List.forall_mem_singleton.mpr rfl
        · exact List.forall_mem_singleton.mpr rfl

theorem IsNumber.exists_cons {s : Text} (h : IsNumber s) :
    ∃ c ds, s = c :: ds ∧ (c = '-' ∨ isAsciiDigit c) := by
  obtain ⟨sign, whole, fraction, exponent, rfl, rfl | rfl, hwhole, -⟩ := h
  · have hhead := hwhole.head?_append (fraction ++ exponent)
    cases hs : whole ++ (fraction ++ exponent) with
    | nil =>
      rcases hwhole with rfl | ⟨⟨hne, -⟩, -⟩
      · cases hs
      · exact absurd (List.append_eq_nil_iff.mp hs).1 hne
    | cons c ds =>
      rw [hs] at hhead
      exact ⟨c, ds, rfl, Or.inr (hhead c rfl)⟩
  · exact ⟨'-', _, rfl, Or.inl rfl⟩

theorem exists_of_nextToken? {s rest : Text} {t : JsonToken} (h : nextToken? s = some (t, rest)) :
    ∃ spelled, s = spelled ++ rest ∧ t.Spells spelled := by
  unfold nextToken? at h
  split at h
  next => cases h
  next c u =>
    split_ifs at h with h₁ h₂ h₃ h₄ h₅ h₆ hquote hnumber
    · cases h
      exact ⟨[c], rfl, h₁ ▸ .openArray⟩
    · cases h
      exact ⟨[c], rfl, h₂ ▸ .closeArray⟩
    · cases h
      exact ⟨[c], rfl, h₃ ▸ .openObject⟩
    · cases h
      exact ⟨[c], rfl, h₄ ▸ .closeObject⟩
    · cases h
      exact ⟨[c], rfl, h₅ ▸ .colon⟩
    · cases h
      exact ⟨[c], rfl, h₆ ▸ .comma⟩
    · obtain ⟨⟨raw, rest⟩, hraw, heq⟩ := Option.map_eq_some_iff.mp h
      cases heq
      obtain ⟨hbody, rfl⟩ := exists_of_splitString hraw
      exact ⟨'"' :: (raw ++ ['"']), by simp [hquote], .string hbody⟩
    · obtain ⟨hdigits, heq⟩ := Option.ite_none_right_eq_some.mp h
      cases heq
      exact ⟨_, List.takeWhile_append_dropWhile.symm, .number (isJsonNumber_iff.mp hdigits)⟩
    · simp only [Option.orElse_eq_orElse, Option.orElse_eq_or, Option.or_eq_some_iff,
        Option.map_eq_some_iff, Text.after?_eq_some] at h
      rcases h with ⟨_, hs, heq⟩ | ⟨-, ⟨_, hs, heq⟩ | ⟨-, _, hs, heq⟩⟩
      · cases heq
        exact ⟨_, hs, .null⟩
      · cases heq
        exact ⟨_, hs, .yes⟩
      · cases heq
        exact ⟨_, hs, .no⟩

theorem nextToken?_append {t : JsonToken} {spelled rest : Text} (h : t.Spells spelled)
    (hend : t.IsNumeral → ∀ c ∈ rest.head?, isNumberChar c = false) :
    nextToken? (spelled ++ rest) = some (t, rest) := by
  cases h with
  | openArray => rfl
  | closeArray => rfl
  | openObject => rfl
  | closeObject => rfl
  | colon => rfl
  | comma => rfl
  | string hbody => simp [nextToken?, splitString_append hbody]
  | null => rfl
  | yes => rfl
  | no => rfl
  | number hnumber =>
    obtain ⟨hdigits, hrest⟩ : (spelled ++ rest).takeWhile isNumberChar = spelled
        ∧ (spelled ++ rest).dropWhile isNumberChar = rest :=
      span_eq_iff.mpr ⟨rfl, hnumber.forall_isNumberChar, head?_all_not (hend ⟨spelled, rfl⟩)⟩
    obtain ⟨c, ds, rfl, hc⟩ := hnumber.exists_cons
    have hnot : ∀ x ∈ ['[', ']', '\x7b', '\x7d', ':', ',', '"', 'e', 'E'], c ≠ x := by
      rintro x hx rfl
      have hnone : ['[', ']', '\x7b', '\x7d', ':', ',', '"', 'e', 'E'].all
          (fun x => !(x == '-' || isAsciiDigit x)) := by decide
      rcases hc with rfl | hdigit
      · exact absurd (List.all_eq_true.mp hnone _ hx) (by decide)
      · simpa [hdigit] using List.all_eq_true.mp hnone _ hx
    have hchar : isNumberChar c := hnumber.forall_isNumberChar c List.mem_cons_self
    simp only [List.forall_mem_cons] at hnot
    obtain ⟨h₁, h₂, h₃, h₄, h₅, h₆, hquote, he, hE, -⟩ := hnot
    have hstart : (isNumberChar c && c != 'e' && c != 'E') = true := by simp [hchar, he, hE]
    rw [List.cons_append] at hdigits hrest ⊢
    rw [nextToken?, if_neg h₁, if_neg h₂, if_neg h₃, if_neg h₄, if_neg h₅, if_neg h₆,
      if_neg hquote, if_pos hstart, hdigits, hrest, if_pos (isJsonNumber_iff.mpr hnumber)]

/-! ## 4. Texts of tokens -/

/-- The text writes the tokens one after the other, with white space around and between them. -/
inductive IsSpelled : List JsonToken → Text → Prop
  | nil {blanks : Text} (hblanks : ∀ c ∈ blanks, isJsonBlank c) : IsSpelled [] blanks
  | cons {blanks spelled rest : Text} {t : JsonToken} {ts : List JsonToken}
      (hblanks : ∀ c ∈ blanks, isJsonBlank c) (ht : t.Spells spelled) (hrest : IsSpelled ts rest) :
      IsSpelled (t :: ts) (blanks ++ (spelled ++ rest))

/-- No two numbers follow each other. -/
def NumbersApart : List JsonToken → Prop :=
  List.IsChain fun t t' => ¬ (t.IsNumeral ∧ t'.IsNumeral)

section
variable {t : JsonToken} {ts : List JsonToken} {s spelled : Text}

theorem isNumberChar_of_isJsonBlank {c : Char} (h : isJsonBlank c) : isNumberChar c = false := by
  simp only [isJsonBlank, Bool.or_eq_true, beq_iff_eq] at h
  rcases h with ((rfl | rfl) | rfl) | rfl <;> decide

theorem JsonToken.Spells.exists_cons (h : t.Spells spelled) :
    ∃ c w, spelled = c :: w ∧ isJsonBlank c = false ∧ (¬ t.IsNumeral → isNumberChar c = false) := by
  cases h with
  | number hnumber =>
    obtain ⟨c, ds, rfl, hc⟩ := hnumber.exists_cons
    have hchar := hnumber.forall_isNumberChar c List.mem_cons_self
    refine ⟨c, ds, rfl, ?_, fun hnot => absurd ⟨_, rfl⟩ hnot⟩
    exact Bool.eq_false_iff.mpr fun hblank => by simp [isNumberChar_of_isJsonBlank hblank] at hchar
  | string => exact ⟨'"', _, rfl, by decide, fun _ => by decide⟩
  | _ => exact ⟨_, _, rfl, by decide, fun _ => by decide⟩

theorem IsSpelled.head? (h : IsSpelled ts s) (hts : ∀ t ∈ ts.head?, ¬ t.IsNumeral) :
    ∀ c ∈ s.head?, isNumberChar c = false := by
  cases h with
  | nil hblanks =>
    exact fun c hc => isNumberChar_of_isJsonBlank (hblanks c (List.mem_of_head? hc))
  | cons hblanks ht _ =>
    obtain ⟨c, w, rfl, -, hc⟩ := ht.exists_cons
    refine forall_mem_head?_append (fun c hc => isNumberChar_of_isJsonBlank (hblanks c hc)) ?_
    intro d hd
    cases hd
    exact hc (hts _ rfl)

theorem isSpelled_of_tokensWithin {fuel : Nat} (hfuel : s.length < fuel)
    (h : tokensWithin fuel s = some ts) : IsSpelled ts s := by
  induction fuel generalizing s ts with
  | zero => exact absurd hfuel (Nat.not_lt_zero _)
  | succ fuel ih =>
    rw [tokensWithin] at h
    cases hdrop : s.dropWhile isJsonBlank with
    | nil =>
      obtain ⟨blanks, hs, hblanks⟩ := exists_of_dropWhile_eq hdrop
      rw [hdrop] at h
      cases h
      rw [hs, List.append_nil]
      exact .nil hblanks
    | cons c u =>
      obtain ⟨blanks, rfl, hblanks⟩ := exists_of_dropWhile_eq hdrop
      rw [hdrop] at h
      obtain ⟨⟨t, rest⟩, hnext, hmap⟩ := Option.bind_eq_some_iff.mp h
      obtain ⟨ts', hts, rfl⟩ := Option.map_eq_some_iff.mp hmap
      obtain ⟨spelled, hspelled, ht⟩ := exists_of_nextToken? hnext
      obtain ⟨c, w, rfl, -⟩ := ht.exists_cons
      rw [hspelled] at hfuel ⊢
      refine .cons hblanks ht (ih ?_ hts)
      simp only [List.length_append, List.length_cons] at hfuel
      omega

theorem tokensWithin_of_isSpelled {fuel : Nat} (h : IsSpelled ts s) (hapart : NumbersApart ts)
    (hfuel : s.length < fuel) : tokensWithin fuel s = some ts := by
  induction h generalizing fuel with
  | @nil blanks hblanks =>
    obtain ⟨fuel, rfl⟩ := Nat.exists_eq_succ_of_ne_zero (Nat.ne_of_gt (Nat.zero_lt_of_lt hfuel))
    have hdrop : blanks.dropWhile isJsonBlank = [] := List.dropWhile_eq_nil_iff.mpr hblanks
    rw [tokensWithin, hdrop]
  | @cons blanks spelled rest t ts hblanks ht hrest ih =>
    obtain ⟨fuel, rfl⟩ := Nat.exists_eq_succ_of_ne_zero (Nat.ne_of_gt (Nat.zero_lt_of_lt hfuel))
    obtain ⟨hnext, hlater⟩ := List.isChain_cons.mp hapart
    have hend : t.IsNumeral → ∀ c ∈ rest.head?, isNumberChar c = false := fun hnumeral =>
      hrest.head? fun t' ht' hnumeral' => hnext t' ht' ⟨hnumeral, hnumeral'⟩
    have htoken := nextToken?_append ht hend
    obtain ⟨c, w, rfl, hc, -⟩ := ht.exists_cons
    have hshort : rest.length < fuel := by
      simp only [List.length_append, List.length_cons] at hfuel
      omega
    rw [tokensWithin, List.cons_append, dropWhile_append_cons hblanks hc]
    rw [List.cons_append] at htoken
    simp only [htoken, Option.bind_some, ih hlater hshort, Option.map_some]

theorem isSpelled_of_jsonTokens? (h : jsonTokens? s = some ts) : IsSpelled ts s :=
  isSpelled_of_tokensWithin (Nat.lt_succ_self _) h

theorem jsonTokens?_of_isSpelled (h : IsSpelled ts s) (hapart : NumbersApart ts) :
    jsonTokens? s = some ts :=
  tokensWithin_of_isSpelled h hapart (Nat.lt_succ_self _)

end

end EnvAudit
