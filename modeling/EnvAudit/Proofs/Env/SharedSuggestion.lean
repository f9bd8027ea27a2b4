import EnvAudit.Proofs.Env.LookAlikePairs
import EnvAudit.Proofs.Env.SecondRespelling

/-!
# Names with one suggestion

A suggestion is the name in another spelling.  An ASCII name and its suggestion have the same bare
name, which is what is left without dashes, underscores and white space in lower case
(`bareName_upperSnake`).  So whoever follows the suggestions makes one variable of two only where
the two look alike, and those are warned about as a pair (`bareName_upperSnake_and_isAbout`).
-/

namespace EnvAudit

/-! ## 1. Lower case of ASCII text -/

theorem lowerAfter_of_isAscii {s : Text} (h : IsAscii s) (before : Text) :
    Text.lowerAfter before s = s.map Char.toLower := by
  induction s generalizing before with
  | nil => rfl
  | cons c s ih =>
    rw [IsAscii, List.forall_mem_cons] at h
    have hsigma : c ≠ 'Σ' := by
      rintro rfl
      exact absurd h.1 (by decide)
    have hlower : Unicode.lowerChar c = [c.toLower] := if_pos h.1
    rw [Text.lowerAfter, if_neg hsigma, ih h.2, hlower]
    rfl

theorem lower_of_isAscii {s : Text} (h : IsAscii s) : Text.lower s = s.map Char.toLower :=
  lowerAfter_of_isAscii h []

/-! ## 2. Bare names -/

/-- Neither a dash, an underscore nor white space. -/
def isBareChar (c : Char) : Bool := !(isNameSeparator c || c == '_')

/-- The name without dashes, underscores and white space, in lower case. -/
def bareName (name : Text) : Text := Text.lower (name.filter isBareChar)

theorem bareName_of_isAscii {name : Text} (h : IsAscii name) :
    bareName name = (name.filter isBareChar).map Char.toLower :=
  lower_of_isAscii fun c hc => h c (List.mem_of_mem_filter hc)

/-- Upper case keeps the bare characters, and lower case forgets it. -/
theorem isBareChar_toUpper {c : Char} (h : c.toNat < 128) :
    isBareChar c.toUpper = isBareChar c ∧ c.toUpper.toLower = c.toLower
      ∧ c.toUpper.toNat < 128 :=
  forall_of_ascii
    (P := fun c => isBareChar c.toUpper = isBareChar c ∧ c.toUpper.toLower = c.toLower
      ∧ c.toUpper.toNat < 128)
    (by decide) h

theorem isBareChar_of_isNameSeparator {c : Char} (h : isNameSeparator c) :
    isBareChar c = false := by
  rw [isBareChar, h, Bool.true_or, Bool.not_true]

/-- What a character becomes holds nothing bare but the character. -/
theorem bare_respellChar (before : Option Char) {c : Char} (h : c.toNat < 128) :
    ((respellChar before c).filter isBareChar).map Char.toLower
      = ([c].filter isBareChar).map Char.toLower := by
  have hunderscore : isBareChar '_' = false := by decide
  have hupper := isBareChar_toUpper h
  rcases respellChar_of_ascii before h with
    ⟨heq, hc, -⟩ | ⟨heq, hc, -⟩ | ⟨heq, -, -⟩ | ⟨heq, -, -⟩
  · simp [heq, isBareChar_of_isNameSeparator hc]
  · simp [heq, isBareChar_of_isNameSeparator hc, hunderscore]
  · by_cases hbare : isBareChar c <;> simp [heq, hunderscore, hupper, hbare]
  · by_cases hbare : isBareChar c <;> simp [heq, hupper, hbare]

theorem bare_respellFrom (before : Option Char) {s : Text} (h : IsAscii s) :
    ((respellFrom before s).filter isBareChar).map Char.toLower
      = (s.filter isBareChar).map Char.toLower := by
  induction s generalizing before with
  | nil => rfl
  | cons c s ih =>
    rw [IsAscii, List.forall_mem_cons] at h
    rw [respellFrom, List.filter_append, List.map_append, bare_respellChar before h.1,
      ih (some c) h.2, ← List.map_append, ← List.filter_append, List.singleton_append]

theorem eq_of_mem_respellChar {before : Option Char} {c d : Char} (h : c.toNat < 128)
    (hd : d ∈ respellChar before c) : d = '_' ∨ d = c.toUpper := by
  rcases respellChar_of_ascii before h with ⟨heq, -⟩ | ⟨heq, -⟩ | ⟨heq, -⟩ | ⟨heq, -⟩ <;>
    rw [heq] at hd <;> simp_all

theorem isAscii_respellFrom (before : Option Char) {s : Text} (h : IsAscii s) :
    IsAscii (respellFrom before s) := by
  induction s generalizing before with
  | nil => exact h
  | cons c s ih =>
    rw [IsAscii, List.forall_mem_cons] at h
    rw [IsAscii, respellFrom, List.forall_mem_append]
    refine ⟨fun d hd => ?_, ih (some c) h.2⟩
    rcases eq_of_mem_respellChar h.1 hd with rfl | rfl
    · decide
    · exact (isBareChar_toUpper h.1).2.2

theorem isAscii_upperSnake {name : Text} (h : IsAscii name) : IsAscii (upperSnake name) := by
  rw [upperSnake_eq]
  exact isAscii_respellFrom none h

/-- A suggestion is the name in another spelling. -/
theorem bareName_upperSnake {name : Text} (h : IsAscii name) :
    bareName (upperSnake name) = bareName name := by
  rw [bareName_of_isAscii (isAscii_upperSnake h), bareName_of_isAscii h, upperSnake_eq,
    bare_respellFrom none h]

/-! ## 3. Names of letters, digits and underscores -/

theorem isAscii_of_forall_isNameChar {name : Text} (h : ∀ c ∈ name, isNameChar c) :
    IsAscii name := fun c hc => toNat_lt_of_isNameChar (h c hc)

/-- Such a name has nothing to lose but its underscores. -/
theorem bareName_eq_plainName {name : Text} (h : ∀ c ∈ name, isNameChar c) :
    bareName name = plainName name := by
  have hkept : name.filter isBareChar = name.filter (· ≠ '_') := by
    apply List.filter_congr
    intro c hc
    rw [isBareChar, not_isNameSeparator_of_isNameChar (h c hc), Bool.false_or, decide_not]
    rfl
  rw [bareName, plainName, hkept]

theorem plainName_eq_of_upperSnake_eq {a b : Text} (ha : ∀ c ∈ a, isNameChar c)
    (hb : ∀ c ∈ b, isNameChar c) (h : upperSnake a = upperSnake b) : plainName a = plainName b := by
  rw [← bareName_eq_plainName ha, ← bareName_eq_plainName hb,
    ← bareName_upperSnake (isAscii_of_forall_isNameChar ha),
    ← bareName_upperSnake (isAscii_of_forall_isNameChar hb), h]

/-- An ASCII name and its suggestion have the same bare name, and the suggestion is ASCII without
small letters, dashes and white space.  Two different names of letters, digits and underscores with
one suggestion are warned about as a pair, once, wherever both are looked at. -/
theorem bareName_upperSnake_and_isAbout :
    (∀ name : Text, IsAscii name →
        bareName (upperSnake name) = bareName name
          ∧ ∀ c ∈ upperSnake name,
            c.toNat < 128 ∧ ¬ isAsciiLower c ∧ c ≠ '-' ∧ isBlank c = false)
      ∧ ∀ (names : List Text) (a b : Text), a ∈ names → b ∈ names → a ≠ b →
        (∀ c ∈ a, isNameChar c) → (∀ c ∈ b, isNameChar c) → upperSnake a = upperSnake b →
          (lookAlikes names).countP (fun w => decide (w.IsAbout a b)) = 1 := by
  constructor
  · intro name h
    refine ⟨bareName_upperSnake h, fun c hc => ?_⟩
    have hsettled := isSettled_of_mem_upperSnake hc
    have hseparator := hsettled.2
    rw [isNameSeparator, Bool.or_eq_false_iff, beq_eq_false_iff_ne] at hseparator
    exact ⟨isAscii_upperSnake h c hc, hsettled.not_isAsciiLower, hseparator.1, hseparator.2⟩
  · intro names a b ha hb hne hnameA hnameB h
    exact countP_isAbout ha hb hne (plainName_eq_of_upperSnake_eq hnameA hnameB h)

/-- A name with humps, dashes, blanks and digits keeps what it is; `apiKey` and `API_KEY` are
suggested one spelling and make a pair, with a third name between them. -/
theorem bareName_upperSnake_and_isAbout_apiKey :
    bareName (upperSnake "db-hostName 2\tx_Y".toList) = "dbhostname2xy".toList
      ∧ upperSnake "apiKey".toList = upperSnake "API_KEY".toList
      ∧ (lookAlikes ["apiKey".toList, "PORT".toList, "API_KEY".toList]).countP
          (fun w => decide (w.IsAbout "apiKey".toList "API_KEY".toList)) = 1 := by
  have hname : bareName "db-hostName 2\tx_Y".toList = "dbhostname2xy".toList := by decide
  have hsame : upperSnake "apiKey".toList = upperSnake "API_KEY".toList := by decide
  have hnameA : ∀ c ∈ "apiKey".toList, isNameChar c := List.all_eq_true.mp (by decide)
  have hnameB : ∀ c ∈ "API_KEY".toList, isNameChar c := List.all_eq_true.mp (by decide)
  refine ⟨?_, hsame, ?_⟩
  · rw [(bareName_upperSnake_and_isAbout.1 _ (by decide)).1, hname]
  · exact bareName_upperSnake_and_isAbout.2 _ _ _ (by decide) (by decide) (by decide) hnameA hnameB
      hsame

end EnvAudit
