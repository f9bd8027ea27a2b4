import Mathlib.Data.List.Chain
import Mathlib.Data.List.Infix
import EnvAudit.Env.Name
import EnvAudit.Proofs.Env.Assignment
import EnvAudit.Proofs.Text.Places

/-!
# Respelled names, character by character

What UPPER_SNAKE_CASE makes of a character depends on the one before it alone: `upperSnake_eq` reads
the respelling off the name in one pass.  A word of capitals stands in a respelled name where it
stands in the name in some letter case, without a change from a lower-case letter or a digit to a
capital on the way (`infix_respellFrom_iff`).  It stands there behind an underscore where a
separator, an underscore or such a change parts it from what is in front
(`underscore_infix_respellFrom_iff`).
-/

namespace EnvAudit

/-! ## 1. One pass over a name -/

/-- A capital that gets an underscore in front of it. -/
def IsHump (a b : Char) : Prop := (isAsciiLower a || isAsciiDigit a) ∧ isAsciiUpper b

instance (a b : Char) : Decidable (IsHump a b) := inferInstanceAs (Decidable (_ ∧ _))

/-- What a character becomes behind another. -/
def respellChar (before : Option Char) (c : Char) : Text :=
  if isNameSeparator c then
    if before.any isNameSeparator then [] else ['_']
  else if before.any (fun a => decide (IsHump a c)) then '_' :: Unicode.upperChar c
  else Unicode.upperChar c

/-- What a name becomes behind a character. -/
def respellFrom (before : Option Char) : Text → Text
  | [] => []
  | c :: s => respellChar before c ++ respellFrom (some c) s

/-- Underscores in front of the capitals of a text behind a character. -/
def humpsAfter (a : Char) : Text → Text
  | [] => []
  | b :: s => (if IsHump a b then ['_'] else []) ++ b :: humpsAfter b s

theorem separateHumps_cons (a : Char) (s : Text) :
    separateHumps (a :: s) = a :: humpsAfter a s := by
  induction s generalizing a with
  | nil => rfl
  | cons b s ih =>
    rw [separateHumps, humpsAfter, ih]
    by_cases h : IsHump a b
    · have hbool : ((isAsciiLower a || isAsciiDigit a) && isAsciiUpper b) = true := by
        rw [Bool.and_eq_true]
        exact h
      rw [if_pos hbool, if_pos h]
      rfl
    · have hbool : ¬ ((isAsciiLower a || isAsciiDigit a) && isAsciiUpper b) = true := by
        rw [Bool.and_eq_true]
        exact h
      rw [if_neg hbool, if_neg h]
      rfl

theorem not_isNameSeparator_of_isNameChar {c : Char} (h : isNameChar c) :
    isNameSeparator c = false := by
  rw [isNameSeparator, not_isBlank_of_isNameChar h, Bool.or_false, beq_eq_false_iff_ne]
  rintro rfl
  exact absurd h (by decide)

theorem IsHump.isNameChar {a b : Char} (h : IsHump a b) : isNameChar a ∧ isNameChar b := by
  rcases h with ⟨ha, hb⟩
  rw [Bool.or_eq_true] at ha
  unfold EnvAudit.isNameChar isAsciiLetter
  constructor
  · rcases ha with ha | ha <;> simp [ha]
  · simp [hb]

/-- No underscore is put next to a dash or a blank. -/
theorem IsHump.not_isNameSeparator {a b : Char} (h : IsHump a b) :
    isNameSeparator a = false ∧ isNameSeparator b = false :=
  ⟨not_isNameSeparator_of_isNameChar h.isNameChar.1,
    not_isNameSeparator_of_isNameChar h.isNameChar.2⟩

theorem not_isHump_underscore (c : Char) : ¬ IsHump '_' c := by
  rintro ⟨h, -⟩
  exact absurd h (by decide)

theorem upper_cons (c : Char) (s : Text) :
    Text.upper (c :: s) = Unicode.upperChar c ++ Text.upper s := List.flatMap_cons

theorem upperChar_underscore : Unicode.upperChar '_' = ['_'] := rfl

theorem upper_joinSeparators_humpsAfter (a : Char) (s : Text) :
    Text.upper (joinSeparators (isNameSeparator a) (humpsAfter a s)) = respellFrom (some a) s := by
  induction s generalizing a with
  | nil => rfl
  | cons b s ih =>
    have hunderscore : isNameSeparator '_' = false := by decide
    rw [humpsAfter, respellFrom, respellChar, ← ih b]
    by_cases hhump : IsHump a b
    · have hno := hhump.not_isNameSeparator
      simp [hhump, hno.2, hunderscore, joinSeparators, upper_cons, upperChar_underscore]
    · by_cases hb : isNameSeparator b
      · by_cases ha : isNameSeparator a
        · simp [hhump, ha, hb, joinSeparators]
        · simp [hhump, ha, hb, joinSeparators, upper_cons, upperChar_underscore]
      · simp [hhump, hb, joinSeparators, upper_cons]

/-- A name is respelled character by character. -/
theorem upperSnake_eq (name : Text) : upperSnake name = respellFrom none name := by
  unfold upperSnake
  cases name with
  | nil => rfl
  | cons a s =>
    rw [separateHumps_cons, respellFrom, ← upper_joinSeparators_humpsAfter, respellChar]
    by_cases ha : isNameSeparator a
    · simp [ha, joinSeparators, upper_cons, upperChar_underscore]
    · simp [ha, joinSeparators, upper_cons]

theorem respellFrom_append (before : Option Char) (s t : Text) :
    respellFrom before (s ++ t) = respellFrom before s ++ respellFrom (s.getLast?.or before) t := by
  induction s generalizing before with
  | nil => rfl
  | cons c s ih =>
    rw [List.cons_append, respellFrom, respellFrom, ih, Text.getLast?_cons_or, List.append_assoc]

/-! ## 2. Words in some letter case -/

/-- Nowhere inside does a capital follow a lower-case letter or a digit. -/
def IsUnbroken (p : Text) : Prop := p.IsChain fun a b => ¬ IsHump a b

/-- The text begins with the word in some letter case, and the word is unbroken. -/
def BeginsUnbroken (w s : Text) : Prop :=
  ∃ p rest, s = p ++ rest ∧ p.map Char.toUpper = w ∧ IsUnbroken p

/-- The word stands somewhere in the text in some letter case, unbroken. -/
def StandsUnbroken (w s : Text) : Prop := ∃ front back, s = front ++ back ∧ BeginsUnbroken w back

/-- A word of ASCII capitals. -/
def IsCapitals (w : Text) : Prop := w ≠ [] ∧ ∀ c ∈ w, isAsciiUpper c

instance (w : Text) : Decidable (IsCapitals w) :=
  @instDecidableAnd _ _ _ (List.decidableBAll _ w)

def IsAscii (s : Text) : Prop := ∀ c ∈ s, c.toNat < 128

instance (s : Text) : Decidable (IsAscii s) := List.decidableBAll _ s

theorem isAsciiLetter_of_toUpper {c : Char} (h : isAsciiUpper c.toUpper) : isAsciiLetter c := by
  unfold Char.toUpper at h
  unfold isAsciiLetter
  split at h
  next hlower =>
    have hc : isAsciiLower c := by
      rw [isAsciiLower_iff]
      exact hlower
    rw [hc, Bool.or_true]
  next => rw [h, Bool.true_or]

theorem toUpper_eq_underscore {c : Char} : c.toUpper = '_' ↔ c = '_' := by
  constructor
  · intro h
    unfold Char.toUpper at h
    split at h
    next hlower =>
      rw [Char.ext_iff] at h
      have hval : c.val = 127 := by
        calc c.val = c.val + ('A'.val - 'a'.val) - ('A'.val - 'a'.val) := by
              rw [UInt32.add_sub_cancel]
          _ = '_'.val - ('A'.val - 'a'.val) := by rw [← h]
          _ = 127 := by decide
      rw [hval] at hlower
      exact absurd hlower.2 (by decide)
    next => exact h
  · rintro rfl
    rfl

theorem isNameChar_of_isAsciiLetter {c : Char} (h : isAsciiLetter c) : isNameChar c := by
  rw [isNameChar, h, Bool.true_or, Bool.true_or]

theorem upperChar_of_lt {c : Char} (h : c.toNat < 128) : Unicode.upperChar c = [c.toUpper] :=
  if_pos h

theorem beginsUnbroken_nil (s : Text) : BeginsUnbroken [] s :=
  ⟨[], s, rfl, rfl, List.isChain_nil⟩

theorem beginsUnbroken_cons {x c : Char} {w s : Text} :
    BeginsUnbroken (x :: w) (c :: s)
      ↔ c.toUpper = x ∧ BeginsUnbroken w s ∧ (w ≠ [] → ∀ b ∈ s.head?, ¬ IsHump c b) := by
  constructor
  · intro h
    rcases h with ⟨p, rest, hs, hw, hp⟩
    cases p with
    | nil => cases hw
    | cons c' p =>
      rcases List.cons.inj hs with ⟨rfl, rfl⟩
      rcases List.cons.inj hw with ⟨hx, hw⟩
      rw [IsUnbroken, List.isChain_cons] at hp
      refine ⟨hx, ⟨p, rest, rfl, hw, hp.2⟩, fun hne b hb => hp.1 b ?_⟩
      cases p with
      | nil => exact absurd hw.symm hne
      | cons d p => exact hb
  · intro h
    rcases h with ⟨hx, ⟨p, rest, rfl, hw, hp⟩, hahead⟩
    refine ⟨c :: p, rest, rfl, by rw [List.map_cons, hx, hw], ?_⟩
    rw [IsUnbroken, List.isChain_cons]
    refine ⟨fun b hb => ?_, hp⟩
    cases p with
    | nil => cases hb
    | cons d p =>
      refine hahead ?_ b hb
      rw [← hw]
      exact List.cons_ne_nil _ _

theorem not_beginsUnbroken_cons_nil (x : Char) (w : Text) : ¬ BeginsUnbroken (x :: w) [] := by
  rintro ⟨p, rest, hs, hw, -⟩
  rcases List.nil_eq_append_iff.mp hs with ⟨rfl, -⟩
  cases hw

theorem standsUnbroken_cons {w s : Text} {c : Char} :
    StandsUnbroken w (c :: s) ↔ BeginsUnbroken w (c :: s) ∨ StandsUnbroken w s := by
  constructor
  · intro h
    rcases h with ⟨front, back, hs, hw⟩
    cases front with
    | nil => exact Or.inl (hs ▸ hw)
    | cons a front =>
      rcases List.cons.inj hs with ⟨-, rfl⟩
      exact Or.inr ⟨front, back, rfl, hw⟩
  · intro h
    rcases h with hw | ⟨front, back, rfl, hw⟩
    · exact ⟨[], c :: s, rfl, hw⟩
    · exact ⟨c :: front, back, rfl, hw⟩

/-- What a character becomes, if it is an ASCII one. -/
theorem respellChar_of_ascii (before : Option Char) {c : Char} (h : c.toNat < 128) :
    respellChar before c = [] ∧ isNameSeparator c ∧ (∃ a ∈ before, isNameSeparator a)
      ∨ respellChar before c = ['_'] ∧ isNameSeparator c ∧ (∀ a ∈ before, ¬ isNameSeparator a)
      ∨ respellChar before c = ['_', c.toUpper] ∧ ¬ isNameSeparator c ∧ (∃ a ∈ before, IsHump a c)
      ∨ respellChar before c = [c.toUpper] ∧ ¬ isNameSeparator c
        ∧ (∀ a ∈ before, ¬ IsHump a c) := by
  unfold respellChar
  rw [upperChar_of_lt h]
  cases before with
  | none => by_cases hc : isNameSeparator c <;> simp [hc]
  | some a =>
    by_cases hc : isNameSeparator c
    · by_cases ha : isNameSeparator a <;> simp [hc, ha]
    · by_cases hhump : IsHump a c <;> simp [hc, hhump]

/-! ## 3. Words in a respelled name -/

theorem ne_underscore_of_isAsciiUpper {x : Char} (h : isAsciiUpper x) : x ≠ '_' := by
  rintro rfl
  exact absurd h (by decide)

/-- A dash or a blank is no letter of a word. -/
theorem not_isNameSeparator_of_toUpper {c : Char} (h : isAsciiUpper c.toUpper) :
    isNameSeparator c = false :=
  not_isNameSeparator_of_isNameChar (isNameChar_of_isAsciiLetter (isAsciiLetter_of_toUpper h))

/-- Behind a character that is no dash and no blank, a respelling begins with a word of capitals
just if the text does, in some letter case and unbroken from that character on. -/
theorem prefix_respellFrom_iff {a : Char} {w s : Text} (hw : ∀ c ∈ w, isAsciiUpper c)
    (hs : IsAscii s) (ha : ¬ isNameSeparator a) :
    w <+: respellFrom (some a) s
      ↔ BeginsUnbroken w s ∧ (w ≠ [] → ∀ c ∈ s.head?, ¬ IsHump a c) := by
  induction w generalizing a s with
  | nil => simp [beginsUnbroken_nil]
  | cons x w ih =>
    cases s with
    | nil => simp [respellFrom, not_beginsUnbroken_cons_nil]
    | cons c s =>
      rw [List.forall_mem_cons] at hw
      rw [IsAscii, List.forall_mem_cons] at hs
      have hx := ne_underscore_of_isAsciiUpper hw.1
      rw [respellFrom, beginsUnbroken_cons]
      rcases respellChar_of_ascii (some a) hs.1 with
        ⟨-, -, hrun⟩ | ⟨heq, hc, -⟩ | ⟨heq, -, hhump⟩ | ⟨heq, hc, hflat⟩
      · exact absurd (by simpa using hrun) ha
      · rw [heq, List.singleton_append, List.cons_prefix_cons]
        refine iff_of_false (fun h => hx h.1) fun h => ?_
        rw [not_isNameSeparator_of_toUpper (h.1.1 ▸ hw.1)] at hc
        cases hc
      · rw [heq, List.cons_append, List.cons_prefix_cons]
        refine iff_of_false (fun h => hx h.1) fun h => ?_
        rcases hhump with ⟨b, hb, hhump⟩
        cases hb
        exact h.2 (List.cons_ne_nil _ _) c rfl hhump
      · rw [heq, List.singleton_append, List.cons_prefix_cons, ih hw.2 hs.2 hc]
        have hahead : ∀ b ∈ (c :: s).head?, ¬ IsHump a b := by
          intro b hb
          cases hb
          exact hflat a rfl
        constructor
        · intro h
          exact ⟨⟨h.1.symm, h.2.1, h.2.2⟩, fun _ => hahead⟩
        · intro h
          exact ⟨h.1.1.symm, h.1.2.1, h.1.2.2⟩

/-- The same from a letter on. -/
theorem prefix_cons_respellFrom_iff {c x : Char} {w s : Text} (hw : ∀ d ∈ x :: w, isAsciiUpper d)
    (hs : IsAscii s) (hc : ¬ isNameSeparator c) :
    x :: w <+: c.toUpper :: respellFrom (some c) s ↔ BeginsUnbroken (x :: w) (c :: s) := by
  rw [List.forall_mem_cons] at hw
  rw [List.cons_prefix_cons, prefix_respellFrom_iff hw.2 hs hc, beginsUnbroken_cons, eq_comm]

/-- A word begins with the image of a letter only. -/
theorem not_isPrefix_underscore_cons {x : Char} {w r : Text} (hw : ∀ d ∈ x :: w, isAsciiUpper d) :
    ¬ x :: w <+: '_' :: r := by
  rw [List.cons_prefix_cons]
  exact fun h => ne_underscore_of_isAsciiUpper (hw x List.mem_cons_self) h.1

theorem not_beginsUnbroken_of_isNameSeparator {c x : Char} {w s : Text}
    (hw : ∀ d ∈ x :: w, isAsciiUpper d) (hc : isNameSeparator c) :
    ¬ BeginsUnbroken (x :: w) (c :: s) := by
  rw [beginsUnbroken_cons]
  rintro ⟨rfl, -, -⟩
  rw [not_isNameSeparator_of_toUpper (hw _ List.mem_cons_self)] at hc
  cases hc

/-- A word of capitals stands in a respelled name just if it stands in the name in some letter case,
unbroken. -/
theorem infix_respellFrom_iff {before : Option Char} {w s : Text} (hw : IsCapitals w)
    (hs : IsAscii s) : w <:+: respellFrom before s ↔ StandsUnbroken w s := by
  rcases hw with ⟨hne, hw⟩
  cases w with
  | nil => exact absurd rfl hne
  | cons x w =>
    induction s generalizing before with
    | nil =>
      refine iff_of_false (by simp [respellFrom]) ?_
      rintro ⟨front, back, hnil, hback⟩
      rcases List.nil_eq_append_iff.mp hnil with ⟨-, rfl⟩
      exact not_beginsUnbroken_cons_nil x w hback
    | cons c s ih =>
      rw [IsAscii, List.forall_mem_cons] at hs
      have hrest : x :: w <:+: respellFrom (some c) s ↔ StandsUnbroken (x :: w) s := ih hs.2
      rw [respellFrom, standsUnbroken_cons, ← hrest]
      rcases respellChar_of_ascii before hs.1 with
        ⟨heq, hc, -⟩ | ⟨heq, hc, -⟩ | ⟨heq, hc, -⟩ | ⟨heq, hc, -⟩
      · rw [heq, List.nil_append, or_iff_right (not_beginsUnbroken_of_isNameSeparator hw hc)]
      · rw [heq, List.singleton_append, List.infix_cons_iff,
          or_iff_right (not_isPrefix_underscore_cons hw),
          or_iff_right (not_beginsUnbroken_of_isNameSeparator hw hc)]
      · rw [heq, List.cons_append, List.singleton_append, List.infix_cons_iff, List.infix_cons_iff,
          or_iff_right (not_isPrefix_underscore_cons hw), prefix_cons_respellFrom_iff hw hs.2 hc]
      · rw [heq, List.singleton_append, List.infix_cons_iff,
          prefix_cons_respellFrom_iff hw hs.2 hc]

/-! ## 4. Words behind an underscore -/

/-- An underscore stands between the character and the text behind it, or the character becomes
one. -/
def Parts (a : Char) (s : Text) : Prop := a = '_' ∨ isNameSeparator a ∨ ∃ c ∈ s.head?, IsHump a c

/-- The word stands in some letter case, unbroken and parted from what is in front of it. -/
def StandsApart (w s : Text) : Prop :=
  ∃ front a back, s = front ++ a :: back ∧ Parts a back ∧ BeginsUnbroken w back

theorem standsApart_cons {w s : Text} {c : Char} :
    StandsApart w (c :: s) ↔ Parts c s ∧ BeginsUnbroken w s ∨ StandsApart w s := by
  constructor
  · intro h
    rcases h with ⟨front, a, back, hs, hword⟩
    cases front with
    | nil =>
      rcases List.cons.inj hs with ⟨rfl, rfl⟩
      exact Or.inl hword
    | cons d front =>
      rcases List.cons.inj hs with ⟨-, rfl⟩
      exact Or.inr ⟨front, a, back, rfl, hword⟩
  · intro h
    rcases h with hword | ⟨front, a, back, rfl, hword⟩
    · exact ⟨[], c, s, rfl, hword⟩
    · exact ⟨c :: front, a, back, rfl, hword⟩

/-- What a name becomes behind a character, the underscore of a run of separators put behind the
last of them. -/
def respellLate (before : Option Char) (s : Text) : Text :=
  (if before.any isNameSeparator then ['_'] else []) ++ respellFrom before s

theorem respellLate_of_not {a : Char} (h : ¬ isNameSeparator a) (s : Text) :
    respellLate (some a) s = respellFrom (some a) s := by
  simp [respellLate, h]

theorem respellLate_cons_of_isNameSeparator (before : Option Char) {c : Char}
    (h : isNameSeparator c) (s : Text) :
    respellLate before (c :: s) = respellLate (some c) s := by
  unfold respellLate
  rw [respellFrom, respellChar, if_pos h]
  by_cases hbefore : before.any isNameSeparator <;> simp [h, hbefore]

theorem respellLate_cons (before : Option Char) {c : Char} (h : ¬ isNameSeparator c)
    (hc : c.toNat < 128) (s : Text) :
    respellLate before (c :: s)
      = (if before.any (fun a => isNameSeparator a || decide (IsHump a c)) then ['_'] else [])
        ++ c.toUpper :: respellLate (some c) s := by
  rw [respellLate_of_not h, respellLate, respellFrom, respellChar, if_neg h, upperChar_of_lt hc]
  cases before with
  | none => simp
  | some a =>
    by_cases ha : isNameSeparator a
    · have hhump : ¬ IsHump a c := fun hhump => by
        rw [hhump.not_isNameSeparator.1] at ha
        cases ha
      simp [ha, hhump]
    · by_cases hhump : IsHump a c <;> simp [ha, hhump]

/-- The same of a text that begins with a letter, if it is known of what follows. -/
theorem underscore_infix_cons_respellLate_iff {c x : Char} {w s : Text}
    (hw : ∀ d ∈ x :: w, isAsciiUpper d) (hs : IsAscii s) (hc : ¬ isNameSeparator c)
    (hrest : '_' :: x :: w <:+: respellLate (some c) s
      ↔ StandsApart (x :: w) s
        ∨ BeginsUnbroken (x :: w) s ∧ (isNameSeparator c ∨ ∃ d ∈ s.head?, IsHump c d)) :
    '_' :: x :: w <:+: c.toUpper :: respellLate (some c) s ↔ StandsApart (x :: w) (c :: s) := by
  rw [List.infix_cons_iff, List.cons_prefix_cons, hrest, respellLate_of_not hc,
    prefix_respellFrom_iff hw hs hc, eq_comm, toUpper_eq_underscore, standsApart_cons]
  constructor
  · intro h
    rcases h with ⟨hunderscore, hbegins, -⟩ | hapart | ⟨hbegins, hparts⟩
    · exact Or.inl ⟨Or.inl hunderscore, hbegins⟩
    · exact Or.inr hapart
    · exact Or.inl ⟨Or.inr hparts, hbegins⟩
  · intro h
    rcases h with ⟨rfl | hparts, hbegins⟩ | hapart
    · exact Or.inl ⟨rfl, hbegins, fun _ d _ => not_isHump_underscore d⟩
    · exact Or.inr (Or.inr ⟨hbegins, hparts⟩)
    · exact Or.inr (Or.inl hapart)

/-- The same behind a character, a separator's underscore counted to the text. -/
theorem underscore_infix_respellLate_iff {before : Option Char} {w s : Text} (hw : IsCapitals w)
    (hs : IsAscii s) :
    '_' :: w <:+: respellLate before s
      ↔ StandsApart w s
        ∨ BeginsUnbroken w s ∧ ∃ a ∈ before, isNameSeparator a ∨ ∃ c ∈ s.head?, IsHump a c := by
  rcases hw with ⟨hne, hw⟩
  cases w with
  | nil => exact absurd rfl hne
  | cons x w =>
    induction s generalizing before with
    | nil =>
      refine iff_of_false ?_ ?_
      · unfold respellLate
        split <;> simp [respellFrom, List.infix_cons_iff]
      · rintro (⟨front, a, back, hnil, -⟩ | ⟨hbegins, -⟩)
        · simp at hnil
        · exact not_beginsUnbroken_cons_nil x w hbegins
    | cons c s ih =>
      rw [IsAscii, List.forall_mem_cons] at hs
      have hrest : '_' :: x :: w <:+: respellLate (some c) s
          ↔ StandsApart (x :: w) s
            ∨ BeginsUnbroken (x :: w) s ∧ (isNameSeparator c ∨ ∃ d ∈ s.head?, IsHump c d) := by
        rw [ih hs.2]
        simp
      by_cases hc : isNameSeparator c
      · have hbegins := not_beginsUnbroken_of_isNameSeparator (s := s) hw hc
        rw [respellLate_cons_of_isNameSeparator before hc, hrest, standsApart_cons]
        simp [hbegins, hc, Parts, or_comm]
      · have htail := underscore_infix_cons_respellLate_iff hw hs.2 hc hrest
        have hahead : (∃ a ∈ before, isNameSeparator a ∨ ∃ d ∈ (c :: s).head?, IsHump a d)
            ↔ before.any (fun a => isNameSeparator a || decide (IsHump a c)) := by
          cases before <;> simp
        rw [respellLate_cons before hc hs.1, hahead]
        by_cases howed : before.any fun a => isNameSeparator a || decide (IsHump a c)
        · rw [if_pos howed, List.singleton_append, List.infix_cons_iff, htail,
            List.cons_prefix_cons, respellLate_of_not hc, prefix_cons_respellFrom_iff hw hs.2 hc,
            eq_self, true_and, and_iff_left howed, or_comm]
        · rw [if_neg howed, List.nil_append, htail, iff_false_intro howed, and_false, or_false]

/-- A word of capitals stands behind an underscore in a respelled name just if it stands
apart in the name in some letter case, unbroken. -/
theorem underscore_infix_respellFrom_iff {w s : Text} (hw : IsCapitals w) (hs : IsAscii s) :
    '_' :: w <:+: respellFrom none s ↔ StandsApart w s := by
  have h : '_' :: w <:+: respellLate none s ↔ _ := underscore_infix_respellLate_iff hw hs
  simpa [respellLate] using h

end EnvAudit
