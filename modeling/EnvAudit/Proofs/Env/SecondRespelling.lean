import EnvAudit.Proofs.Env.SettledUpper
import EnvAudit.Proofs.Source.SensitiveNames

/-!
# Suggestions respelled

Humps are looked for in the letter case in which a name is written, and the capitals come after.  A
digit in front of a small letter gets no underscore in the suggestion, and gets one once the
suggestion is respelled itself: `s3key` becomes `S3KEY`, and `S3KEY` becomes `S3_KEY`.  Nothing else
moves, because upper case is settled after one pass (`isSettled_of_mem_upperChar`).
`upperSnake_upperSnake_iff` says which suggestions stay as they are, that all do from the second on,
and which names are taken for sensitive only in the spelling that is suggested for them.
-/

namespace EnvAudit

/-! ## 1. Settled text -/

theorem isHump_iff_of_isSettled {a b : Char} (ha : IsSettled a) :
    IsHump a b ↔ isAsciiDigit a ∧ isAsciiUpper b := by
  rw [IsHump, Bool.or_eq_true, or_iff_right ha.not_isAsciiLower]

theorem isSettled_of_mem_respellChar {before : Option Char} {c d : Char}
    (h : d ∈ respellChar before c) : IsSettled d := by
  have hunderscore : IsSettled '_' := by decide
  have hupper (hc : ¬ isNameSeparator c) (hd : d ∈ Unicode.upperChar c) : IsSettled d :=
    (isSettled_of_mem_upperChar (Bool.eq_false_iff.mpr hc) hd).1
  unfold respellChar at h
  split at h
  next =>
    split at h
    next => cases h
    next => exact List.mem_singleton.mp h ▸ hunderscore
  next hc =>
    split at h
    next =>
      rcases List.mem_cons.mp h with rfl | hd
      · exact hunderscore
      · exact hupper hc hd
    next => exact hupper hc h

/-- A suggestion is settled throughout. -/
theorem isSettled_of_mem_upperSnake {name : Text} {d : Char} (h : d ∈ upperSnake name) :
    IsSettled d := by
  rw [upperSnake_eq] at h
  generalize (none : Option Char) = before at h
  induction name generalizing before with
  | nil => cases h
  | cons c s ih =>
    rw [respellFrom, List.mem_append] at h
    rcases h with h | h
    · exact isSettled_of_mem_respellChar h
    · exact ih _ h

/-- All that respelling does to settled text is to mark its humps. -/
theorem respellFrom_cons_of_isSettled {c : Char} (hc : IsSettled c) (before : Option Char)
    (s : Text) :
    respellFrom before (c :: s)
      = (if before.any fun a => decide (IsHump a c) then ['_'] else [])
        ++ c :: respellFrom (some c) s := by
  rw [respellFrom, respellChar, if_neg (Bool.eq_false_iff.mp hc.2), hc.1]
  split <;> rfl

/-- Settled text is respelled to itself just if it has no hump. -/
theorem respellFrom_eq_self_iff (before : Option Char) {u : Text} (hu : ∀ c ∈ u, IsSettled c) :
    respellFrom before u = u ↔ IsUnbroken (before.toList ++ u) := by
  induction u generalizing before with
  | nil => cases before <;> simp [respellFrom, IsUnbroken]
  | cons c u ih =>
    rw [List.forall_mem_cons] at hu
    have htail : respellFrom (some c) u = u ↔ IsUnbroken (c :: u) := ih (some c) hu.2
    rw [respellFrom_cons_of_isSettled hu.1]
    cases before with
    | none => simp [htail]
    | some a =>
      show _ ↔ IsUnbroken (a :: c :: u)
      rw [IsUnbroken, List.isChain_cons_cons]
      by_cases hhump : IsHump a c
      · have hc : c ≠ '_' := ne_underscore_of_isAsciiUpper hhump.2
        simp [hhump, hc.symm]
      · simp [hhump, htail, IsUnbroken]

/-- Once its humps are marked it has none. -/
theorem isUnbroken_respellFrom (before : Option Char) {u : Text} (hu : ∀ c ∈ u, IsSettled c) :
    IsUnbroken (before.toList ++ respellFrom before u) := by
  induction u generalizing before with
  | nil => cases before <;> simp [respellFrom, IsUnbroken]
  | cons c u ih =>
    rw [List.forall_mem_cons] at hu
    have htail : IsUnbroken (c :: respellFrom (some c) u) := ih (some c) hu.2
    rw [respellFrom_cons_of_isSettled hu.1]
    cases before with
    | none => simpa using htail
    | some a =>
      show IsUnbroken (a :: _)
      unfold IsUnbroken at htail ⊢
      by_cases hhump : IsHump a c
      · have hunderscore : ¬ IsHump a '_' := fun h => ne_underscore_of_isAsciiUpper h.2 rfl
        simp [hhump, hunderscore, not_isHump_underscore, htail]
      · simp [hhump, htail]

theorem upperSnake_eq_self_iff {u : Text} (hu : ∀ c ∈ u, IsSettled c) :
    upperSnake u = u ↔ IsUnbroken u := by
  rw [upperSnake_eq]
  exact respellFrom_eq_self_iff none hu

/-- The second suggestion is the last. -/
theorem upperSnake_upperSnake_upperSnake (name : Text) :
    upperSnake (upperSnake (upperSnake name)) = upperSnake (upperSnake name) := by
  rw [upperSnake_eq_self_iff fun c hc => isSettled_of_mem_upperSnake hc, upperSnake_eq]
  exact isUnbroken_respellFrom none fun c hc => isSettled_of_mem_upperSnake hc

/-! ## 2. Digits in front of capitals -/

/-- A digit in front of a character that is no capital and that upper case makes begin with one. -/
def IsLateHump (a b : Char) : Prop :=
  isAsciiDigit a ∧ ¬ isAsciiUpper b ∧ (Unicode.upperChar b).head?.any isAsciiUpper

instance (a b : Char) : Decidable (IsLateHump a b) := inferInstanceAs (Decidable (_ ∧ _ ∧ _))

/-- Within ASCII, that is a small letter. -/
theorem isLateHump_iff_of_lt {a b : Char} (hb : b.toNat < 128) :
    IsLateHump a b ↔ isAsciiDigit a ∧ isAsciiLower b := by
  have hlower : ¬ isAsciiUpper b ∧ isAsciiUpper b.toUpper ↔ isAsciiLower b :=
    forall_of_ascii (P := fun b => ¬ isAsciiUpper b ∧ isAsciiUpper b.toUpper ↔ isAsciiLower b)
      (by decide) hb
  rw [IsLateHump, upperChar_of_lt hb, ← hlower]
  rfl

/-- The character is a digit, and the text begins with a capital. -/
def MeetsCapital (a : Char) (s : Text) : Prop := isAsciiDigit a ∧ s.head?.any isAsciiUpper

/-- Text in which nothing can begin a hump may be left out in front. -/
theorem isUnbroken_append_of_forall {p s : Text} (hp : ∀ a ∈ p, ∀ b, ¬ IsHump a b) :
    IsUnbroken (p ++ s) ↔ IsUnbroken s := by
  induction p with
  | nil => rfl
  | cons a p ih =>
    rw [List.forall_mem_cons] at hp
    rw [← ih hp.2, IsUnbroken, List.cons_append, List.isChain_cons]
    exact and_iff_right fun b _ => hp.1 b

theorem isUnbroken_cons_of_isAsciiDigit {a : Char} (ha : isAsciiDigit a) (s : Text) :
    IsUnbroken (a :: s) ↔ IsUnbroken s ∧ ¬ MeetsCapital a s := by
  rw [IsUnbroken, List.isChain_cons, and_comm]
  apply and_congr_right'
  cases s with
  | nil => simp [MeetsCapital]
  | cons b s => simp [MeetsCapital, IsHump, ha]

/-- Upper case has no hump inside, and ends in a digit only if it is one. -/
theorem isUnbroken_upperChar_append {c : Char} (hc : isNameSeparator c = false) (s : Text) :
    IsUnbroken (Unicode.upperChar c ++ s) ↔ IsUnbroken s ∧ ¬ MeetsCapital c s := by
  by_cases hdigit : isAsciiDigit c
  · rw [upperChar_of_isAsciiDigit hdigit]
    exact isUnbroken_cons_of_isAsciiDigit hdigit s
  · have hnone : ∀ d ∈ Unicode.upperChar c, ∀ b, ¬ IsHump d b := by
      intro d hd b hhump
      have hsettled := isSettled_of_mem_upperChar hc hd
      have hmade := ((isHump_iff_of_isSettled hsettled.1).mp hhump).1
      exact hdigit (hsettled.2 hmade ▸ hmade)
    rw [isUnbroken_append_of_forall hnone, and_iff_left]
    exact fun h => hdigit h.1

theorem not_isAsciiDigit_of_isNameSeparator {c : Char} (h : isNameSeparator c) :
    ¬ isAsciiDigit c := by
  intro hdigit
  have hname : isNameChar c := by rw [isNameChar, hdigit, Bool.or_true, Bool.true_or]
  rw [not_isNameSeparator_of_isNameChar hname] at h
  cases h

theorem isUnbroken_underscore_cons (s : Text) : IsUnbroken ('_' :: s) ↔ IsUnbroken s :=
  isUnbroken_append_of_forall (p := ['_'])
    (List.forall_mem_singleton.mpr not_isHump_underscore)

/-- In the respelling of a character behind another, the humps are those of what follows. -/
theorem isUnbroken_respellChar_append (before : Option Char) (c : Char) (s : Text) :
    IsUnbroken (respellChar before c ++ s) ↔ IsUnbroken s ∧ ¬ MeetsCapital c s := by
  unfold respellChar
  split
  next hc =>
    have hmeets : ¬ MeetsCapital c s := fun h => not_isAsciiDigit_of_isNameSeparator hc h.1
    rw [and_iff_left hmeets]
    split
    next => rfl
    next => exact isUnbroken_underscore_cons s
  next hc =>
    have hupper := isUnbroken_upperChar_append (Bool.eq_false_iff.mpr hc) s
    split
    next => rw [List.cons_append, isUnbroken_underscore_cons, hupper]
    next => exact hupper

/-- What a digit meets is told by the next character alone. -/
theorem meetsCapital_respellChar_append {a c : Char} (s : Text) :
    MeetsCapital a (respellChar (some a) c ++ s) ↔ IsLateHump a c := by
  rw [MeetsCapital, IsLateHump]
  apply and_congr_right
  intro ha
  by_cases hc : isNameSeparator c
  · have hno : ¬ isNameSeparator a := fun h => not_isAsciiDigit_of_isNameSeparator h ha
    have hself := upperChar_of_isNameSeparator hc
    have hcapital : ¬ isAsciiUpper c := fun h => by
      have hname : isNameChar c := by simp [isNameChar, isAsciiLetter, h]
      rw [not_isNameSeparator_of_isNameChar hname] at hc
      cases hc
    have hunderscore : ¬ isAsciiUpper '_' := by decide
    simp [respellChar, hc, hno, hself, hcapital, hunderscore]
  · by_cases hcapital : isAsciiUpper c
    · have hhump : IsHump a c := ⟨by simp [ha], hcapital⟩
      have hunderscore : ¬ isAsciiUpper '_' := by decide
      simp [respellChar, hc, hhump, hcapital, hunderscore]
    · have hhump : ¬ IsHump a c := fun h => hcapital h.2
      obtain ⟨d, t, hupper⟩ := List.exists_cons_of_ne_nil (upperChar_ne_nil c)
      simp [respellChar, hc, hhump, hcapital, hupper]

/-- The respelling of a name has a hump just where the name has a late one. -/
theorem isUnbroken_respellFrom_iff {a : Char} {s : Text} :
    IsUnbroken (respellFrom (some a) s) ∧ ¬ MeetsCapital a (respellFrom (some a) s)
      ↔ (a :: s).IsChain fun a b => ¬ IsLateHump a b := by
  induction s generalizing a with
  | nil => simp [respellFrom, IsUnbroken, MeetsCapital]
  | cons c s ih =>
    rw [respellFrom, isUnbroken_respellChar_append, meetsCapital_respellChar_append, ih,
      List.isChain_cons_cons, and_comm]

/-- In an ASCII name, a late hump is a digit in front of a small letter. -/
theorem isChain_not_isLateHump_iff {name : Text} (h : IsAscii name) :
    (name.IsChain fun a b => ¬ IsLateHump a b)
      ↔ name.IsChain fun a b => ¬ (isAsciiDigit a ∧ isAsciiLower b) := by
  constructor
  · apply List.IsChain.imp_of_mem_imp
    intro a b _ hb
    rw [isLateHump_iff_of_lt (h b hb)]
    exact id
  · apply List.IsChain.imp_of_mem_imp
    intro a b _ hb
    rw [isLateHump_iff_of_lt (h b hb)]
    exact id

theorem isUnbroken_upperSnake_iff {name : Text} :
    IsUnbroken (upperSnake name) ↔ name.IsChain fun a b => ¬ IsLateHump a b := by
  rw [upperSnake_eq]
  cases name with
  | nil => simp [respellFrom, IsUnbroken]
  | cons a s => rw [respellFrom, isUnbroken_respellChar_append, isUnbroken_respellFrom_iff]

/-! ## 3. Words in the suggestion of a suggestion -/

/-- A word of capitals and underscores that begins with a capital. -/
def IsWordOfCapitals (w : Text) : Prop :=
  w.head?.any isAsciiUpper ∧ ∀ c ∈ w, isAsciiUpper c ∨ c = '_'

instance (w : Text) : Decidable (IsWordOfCapitals w) :=
  @instDecidableAnd _ _ _ (List.decidableBAll _ w)

theorem not_isAsciiDigit_of_isAsciiUpper_or {c : Char} (h : isAsciiUpper c ∨ c = '_') :
    ¬ isAsciiDigit c := by
  rcases h with hupper | rfl
  · rw [isAsciiDigit_iff]
    have := isAsciiUpper_iff.mp hupper
    omega
  · decide

/-- Behind anything but a digit, settled text begins with a word just if its respelling does. -/
theorem prefix_respellFrom_of_isSettled {a : Char} {w u : Text}
    (hw : ∀ c ∈ w, isAsciiUpper c ∨ c = '_') (hu : ∀ c ∈ u, IsSettled c) (ha : IsSettled a)
    (hdigit : ¬ isAsciiDigit a) : w <+: respellFrom (some a) u ↔ w <+: u := by
  induction w generalizing a u with
  | nil => simp
  | cons x w ih =>
    rw [List.forall_mem_cons] at hw
    cases u with
    | nil => rfl
    | cons c u =>
      rw [List.forall_mem_cons] at hu
      have hhump : ¬ (some a).any fun b => decide (IsHump b c) := by
        rw [Option.any_some, decide_eq_true_eq, isHump_iff_of_isSettled ha]
        exact fun h => hdigit h.1
      rw [respellFrom_cons_of_isSettled hu.1, if_neg hhump, List.nil_append, List.cons_prefix_cons,
        List.cons_prefix_cons]
      apply and_congr_right
      rintro rfl
      exact ih hw.2 hu.2 hu.1 (not_isAsciiDigit_of_isAsciiUpper_or hw.1)

theorem prefix_cons_respellFrom_of_isSettled {c : Char} {w u : Text}
    (hw : ∀ c ∈ w, isAsciiUpper c ∨ c = '_') (hc : IsSettled c) (hu : ∀ c ∈ u, IsSettled c) :
    w <+: c :: respellFrom (some c) u ↔ w <+: c :: u := by
  cases w with
  | nil => simp
  | cons x w =>
    rw [List.forall_mem_cons] at hw
    rw [List.cons_prefix_cons, List.cons_prefix_cons]
    apply and_congr_right
    rintro rfl
    exact prefix_respellFrom_of_isSettled hw.2 hu hc (not_isAsciiDigit_of_isAsciiUpper_or hw.1)

theorem IsWordOfCapitals.not_prefix_underscore {w s : Text} (hw : IsWordOfCapitals w) :
    ¬ w <+: '_' :: s := by
  cases w with
  | nil => exact absurd hw.1 Bool.false_ne_true
  | cons x w =>
    rw [List.cons_prefix_cons]
    rintro ⟨rfl, -⟩
    exact ne_underscore_of_isAsciiUpper hw.1 rfl

/-- A word stands in the respelling of settled text just if it stands in the text. -/
theorem infix_respellFrom_of_isSettled (before : Option Char) {w u : Text}
    (hw : IsWordOfCapitals w) (hu : ∀ c ∈ u, IsSettled c) :
    w <:+: respellFrom before u ↔ w <:+: u := by
  induction u generalizing before with
  | nil => rfl
  | cons c u ih =>
    rw [List.forall_mem_cons] at hu
    have htail : w <:+: c :: respellFrom (some c) u ↔ w <:+: c :: u := by
      rw [List.infix_cons_iff, List.infix_cons_iff,
        prefix_cons_respellFrom_of_isSettled hw.2 hu.1 hu.2, ih (some c) hu.2]
    rw [respellFrom_cons_of_isSettled hu.1, ← htail]
    split
    next =>
      rw [List.singleton_append, List.infix_cons_iff, or_iff_right hw.not_prefix_underscore]
    next => rfl

/-- The word stands directly behind a digit. -/
def StandsBehindDigit (w s : Text) : Prop := ∃ d, isAsciiDigit d ∧ d :: w <:+: s

theorem standsBehindDigit_cons {w s : Text} {a : Char} :
    StandsBehindDigit w (a :: s) ↔ isAsciiDigit a ∧ w <+: s ∨ StandsBehindDigit w s := by
  constructor
  · rintro ⟨d, hd, hfound⟩
    rw [List.infix_cons_iff, List.cons_prefix_cons] at hfound
    rcases hfound with ⟨rfl, hw⟩ | hfound
    · exact Or.inl ⟨hd, hw⟩
    · exact Or.inr ⟨d, hd, hfound⟩
  · rintro (⟨ha, hw⟩ | ⟨d, hd, hfound⟩)
    · exact ⟨a, ha, ((List.prefix_cons_inj a).mpr hw).isInfix⟩
    · exact ⟨d, hd, List.infix_cons hfound⟩

/-- A word of capitals behind a digit begins with a hump. -/
theorem isHump_and_prefix_iff {a c : Char} {w u : Text} (hw : IsWordOfCapitals w)
    (ha : IsSettled a) : IsHump a c ∧ w <+: c :: u ↔ isAsciiDigit a ∧ w <+: c :: u := by
  rw [isHump_iff_of_isSettled ha, and_assoc]
  apply and_congr_right'
  rw [and_iff_right_iff_imp]
  intro hprefix
  cases w with
  | nil => exact absurd hw.1 Bool.false_ne_true
  | cons x w =>
    rw [List.cons_prefix_cons] at hprefix
    exact hprefix.1 ▸ hw.1

/-- A word stands behind an underscore in the respelling if it does so in the settled text, or if it
stands behind a digit there. -/
theorem underscore_infix_respellFrom_of_isSettled (before : Option Char) {w u : Text}
    (hw : IsWordOfCapitals w) (hu : ∀ c ∈ u, IsSettled c) (hbefore : ∀ a ∈ before, IsSettled a) :
    '_' :: w <:+: respellFrom before u
      ↔ '_' :: w <:+: u ∨ StandsBehindDigit w (before.toList ++ u) := by
  induction u generalizing before with
  | nil =>
    have hne : w ≠ [] := by
      rintro rfl
      exact absurd hw.1 Bool.false_ne_true
    cases before <;> simp [respellFrom, StandsBehindDigit, List.infix_cons_iff, hne]
  | cons c u ih =>
    rw [List.forall_mem_cons] at hu
    have hprefix : '_' :: w <+: c :: respellFrom (some c) u ↔ '_' :: w <+: c :: u :=
      prefix_cons_respellFrom_of_isSettled
        (List.forall_mem_cons.mpr ⟨Or.inr rfl, hw.2⟩) hu.1 hu.2
    have htail : '_' :: w <:+: c :: respellFrom (some c) u
        ↔ '_' :: w <:+: c :: u ∨ StandsBehindDigit w (c :: u) := by
      rw [List.infix_cons_iff, hprefix, ih (some c) hu.2 (by simpa using hu.1),
        List.infix_cons_iff, or_assoc]
      rfl
    rw [respellFrom_cons_of_isSettled hu.1]
    cases before with
    | none => simpa using htail
    | some a =>
      have ha : IsSettled a := hbefore a rfl
      show _ ↔ _ ∨ StandsBehindDigit w (a :: c :: u)
      rw [standsBehindDigit_cons, ← isHump_and_prefix_iff hw ha, or_left_comm, ← htail,
        ← prefix_cons_respellFrom_of_isSettled hw.2 hu.1 hu.2]
      by_cases hhump : IsHump a c <;> simp [hhump, List.infix_cons_iff, List.cons_prefix_cons]

/-! ## 4. Suggestions and the names they are for -/

theorem isWordOfCapitals_of_mem_publicWords : ∀ w ∈ publicWords, IsWordOfCapitals w := by decide

/-- The one sensitive word that begins with an underscore. -/
theorem isWordOfCapitals_of_mem_sensitiveWords :
    ∀ w ∈ sensitiveWords, IsWordOfCapitals w ∨ w = "_KEY".toList := by decide

/-- The suggestion has no public word, and a key stands behind a digit in it. -/
def GainsKey (name : Text) : Prop :=
  (∀ w ∈ publicWords, ¬ w <:+: upperSnake name)
    ∧ StandsBehindDigit "KEY".toList (upperSnake name)

/-- A suggestion is taken for sensitive where the name is, and where the name gains a key. -/
theorem isSensitive_upperSnake_iff {name : Text} :
    isSensitive (upperSnake name) ↔ isSensitive name ∨ GainsKey name := by
  have hsettled : ∀ c ∈ upperSnake name, IsSettled c := fun c hc => isSettled_of_mem_upperSnake hc
  have hkey : "_KEY".toList <:+: upperSnake (upperSnake name)
      ↔ "_KEY".toList <:+: upperSnake name
        ∨ StandsBehindDigit "KEY".toList (upperSnake name) := by
    rw [upperSnake_eq (upperSnake name)]
    have hcapitals : IsWordOfCapitals "KEY".toList := by decide
    exact underscore_infix_respellFrom_of_isSettled none hcapitals hsettled (by simp)
  have hword {w : Text} (hw : IsWordOfCapitals w) :
      w <:+: upperSnake (upperSnake name) ↔ w <:+: upperSnake name := by
    rw [upperSnake_eq (upperSnake name)]
    exact infix_respellFrom_of_isSettled none hw hsettled
  have hpublic : (∀ w ∈ publicWords, ¬ w <:+: upperSnake (upperSnake name))
      ↔ ∀ w ∈ publicWords, ¬ w <:+: upperSnake name :=
    forall₂_congr fun w hw => not_congr (hword (isWordOfCapitals_of_mem_publicWords w hw))
  have hsensitive : (∃ w ∈ sensitiveWords, w <:+: upperSnake (upperSnake name))
      ↔ (∃ w ∈ sensitiveWords, w <:+: upperSnake name)
        ∨ StandsBehindDigit "KEY".toList (upperSnake name) := by
    constructor
    · rintro ⟨w, hw, hfound⟩
      rcases isWordOfCapitals_of_mem_sensitiveWords w hw with hcapitals | rfl
      · exact Or.inl ⟨w, hw, (hword hcapitals).mp hfound⟩
      · exact (hkey.mp hfound).imp_left fun h => ⟨_, hw, h⟩
    · rintro (⟨w, hw, hfound⟩ | hbehind)
      · rcases isWordOfCapitals_of_mem_sensitiveWords w hw with hcapitals | rfl
        · exact ⟨w, hw, (hword hcapitals).mpr hfound⟩
        · exact ⟨_, hw, hkey.mpr (Or.inl hfound)⟩
      · exact ⟨"_KEY".toList, by decide, hkey.mpr (Or.inr hbehind)⟩
  rw [isSensitive_iff, isSensitive_iff, hpublic, hsensitive, and_or_left]
  rfl

/-- A suggestion is respelled to itself just if no digit of the name stands in front of a character
that is no capital and becomes one: in an ASCII name, in front of a small letter.  From the second
on, every suggestion is.  A name and its suggestion are both taken for sensitive or neither is,
unless there is nothing sensitive in the name and nothing public in the suggestion, and a key stands
behind a digit in it. -/
theorem upperSnake_upperSnake_iff (name : Text) :
    (upperSnake (upperSnake name) = upperSnake name ↔ name.IsChain fun a b => ¬ IsLateHump a b)
      ∧ (IsAscii name →
        (upperSnake (upperSnake name) = upperSnake name
          ↔ name.IsChain fun a b => ¬ (isAsciiDigit a ∧ isAsciiLower b)))
      ∧ upperSnake (upperSnake (upperSnake name)) = upperSnake (upperSnake name)
      ∧ (isSensitive (upperSnake name) ↔ isSensitive name ∨ GainsKey name)
      ∧ (isSensitive (upperSnake name) = isSensitive name
        ↔ (GainsKey name → isSensitive name)) := by
  have hsettled : ∀ c ∈ upperSnake name, IsSettled c := fun c hc => isSettled_of_mem_upperSnake hc
  have hsame : upperSnake (upperSnake name) = upperSnake name
      ↔ name.IsChain fun a b => ¬ IsLateHump a b := by
    rw [upperSnake_eq_self_iff hsettled, isUnbroken_upperSnake_iff]
  have hgains : isSensitive (upperSnake name) ↔ isSensitive name ∨ GainsKey name :=
    isSensitive_upperSnake_iff
  refine ⟨hsame, fun hascii => ?_, upperSnake_upperSnake_upperSnake name, hgains, ?_⟩
  · rw [hsame, isChain_not_isLateHump_iff hascii]
  · rw [Bool.eq_iff_iff, hgains, or_iff_left_iff_imp]

/-- The digit gets its underscore late: the suggestion for `s3key` is `S3KEY`, the suggestion for
that is `S3_KEY`, and only from there on it is taken for a key. -/
theorem upperSnake_upperSnake_ne :
    upperSnake "s3key".toList = "S3KEY".toList
      ∧ upperSnake "S3KEY".toList = "S3_KEY".toList
      ∧ isSensitive "s3key".toList = false ∧ isSensitive "S3KEY".toList = true
      ∧ ¬ ∀ name, upperSnake (upperSnake name) = upperSnake name
        ∧ isSensitive (upperSnake name) = isSensitive name := by
  have hfirst : upperSnake "s3key".toList = "S3KEY".toList := by decide
  have hsecond : upperSnake "S3KEY".toList = "S3_KEY".toList := by decide
  refine ⟨hfirst, hsecond, by decide, by decide, fun h => ?_⟩
  have hsame := (h "s3key".toList).1
  rw [hfirst, hsecond] at hsame
  exact absurd hsame (by decide)

end EnvAudit
