import EnvAudit.Proofs.Source.LiteralAssignment
import EnvAudit.Proofs.Source.NumberedLines

/-!
# What is found on a line

Each line that is not ignored is looked at once, and at most one thing is found on it.
`suspicion?_eq_some` says what is found on a line, one of three things under the name that the line
assigns first, and `mem_sourceSecrets_iff_suspects` which secrets a file has.
-/

namespace EnvAudit

/-! ## 1. The secrets of a file -/

/-- The line with this index is looked at: neither it nor the one above carries the marker. -/
def IsChecked (content : Text) (i : Nat) (line : Text) : Prop :=
  (Text.lines content)[i]? = some line ∧ isIgnoredRow (Text.lines content) i = false

/-- The secret that is reported for something suspicious on the line with this index. -/
def secretAt (file : Text) (i : Nat) (line : Text) (key : Option Text) (severity : Severity)
    (cause : SecretCause) : SourceSecret :=
  ⟨key, cause, severity, file, i + 1, snippet line⟩

theorem mem_sourceSecrets {limits : SecretLimits} {file content : Text} {s : SourceSecret} :
    s ∈ sourceSecrets limits file content
      ↔ ∃ i line key severity cause, IsChecked content i line
          ∧ suspicion? limits line = some (key, severity, cause)
          ∧ s = secretAt file i line key severity cause := by
  simp only [sourceSecrets, sourceSecretsBy, List.mem_filterMap, mem_numberLines, secretOnLineBy?,
    IsChecked]
  constructor
  · intro h
    rcases h with ⟨_, ⟨i, line, hline, rfl⟩, hs⟩
    split at hs
    next => cases hs
    next hkept =>
      rcases Option.map_eq_some_iff.mp hs with ⟨⟨key, severity, cause⟩, hfound, rfl⟩
      exact ⟨i, line, key, severity, cause, ⟨hline, by simpa using hkept⟩, hfound, rfl⟩
  · intro h
    rcases h with ⟨i, line, key, severity, cause, ⟨hline, hkept⟩, hfound, rfl⟩
    refine ⟨_, ⟨i, line, hline, rfl⟩, ?_⟩
    rw [if_neg (by simp [hkept])]
    exact Option.map_eq_some_iff.mpr ⟨_, hfound, rfl⟩

/-! ## 2. What makes a line suspicious -/

/-- The line holds a credential of a known format. -/
def HoldsCredential (line : Text) : Prop := ∃ f ∈ credentialFormats, f.isIn line

/-- An assignment that gives a secret away: a sensitive name gets a literal which is long enough,
stands for no other value and looks random. -/
structure LiteralAssignment.Tells {line : Text} (limits : SecretLimits)
    (a : LiteralAssignment line) : Prop where
  isSensitive : isSensitive a.name
  length_le : max limits.minSensitiveLength minRandomLength ≤ a.literal.length
  not_isPlaceholder : isPlaceholder a.literal = false
  exceeds : exceeds (entropy a.literal) 80

theorem credentialIn?_isSome {line : Text} :
    (credentialIn? line).isSome ↔ HoldsCredential line := by
  unfold credentialIn? HoldsCredential
  rw [List.find?_isSome]

theorem randomness?_eq_some {value : Text} {severity : Severity} {e : Nat} :
    randomness? value = some (severity, e)
      ↔ minRandomLength ≤ value.length ∧ exceeds (entropy value) 80 ∧ e = entropy value
          ∧ severity = if exceeds (entropy value) 92 then .high else .medium := by
  unfold randomness? randomnessBy?
  by_cases hlength : value.length < minRandomLength
  · rw [if_pos hlength]
    exact iff_of_false (by simp) fun h => absurd h.1 (Nat.not_le_of_lt hlength)
  · rw [if_neg hlength]
    by_cases hrandom : exceeds (entropy value) 80
    · simp only [hrandom, if_true, true_and, Option.some.injEq, Prod.mk.injEq]
      constructor
      · intro h
        exact ⟨Nat.le_of_not_lt hlength, h.2.symm, h.1.symm⟩
      · intro h
        exact ⟨h.2.2.symm, h.2.1.symm⟩
    · simp [hrandom]

theorem randomness?_isSome {value : Text} :
    (randomness? value).isSome
      ↔ minRandomLength ≤ value.length ∧ exceeds (entropy value) 80 := by
  rw [Option.isSome_iff_exists]
  constructor
  · intro h
    rcases h with ⟨⟨severity, e⟩, h⟩
    have hvalue := randomness?_eq_some.mp h
    exact ⟨hvalue.1, hvalue.2.1⟩
  · intro h
    exact ⟨_, randomness?_eq_some.mpr ⟨h.1, h.2, rfl, rfl⟩⟩

theorem sensitiveAssignment?_isSome {line : Text} {limits : SecretLimits}
    {a : LiteralAssignment line} :
    (sensitiveAssignment? limits (a.name, a.literal)).isSome ↔ a.Tells limits := by
  unfold sensitiveAssignment? sensitiveAssignmentBy?
  constructor
  · intro h
    split at h
    next hname =>
      simp only [Bool.and_eq_true, decide_eq_true_eq, Bool.not_eq_true'] at hname
      rw [randomness?_isSome] at h
      exact ⟨hname.1.1, Nat.max_le.mpr ⟨hname.1.2, h.1⟩, hname.2, h.2⟩
    next => cases h
  · intro h
    have hlength := Nat.max_le.mp h.length_le
    rw [if_pos, randomness?_isSome]
    · exact ⟨hlength.2, h.exceeds⟩
    · simp only [Bool.and_eq_true, decide_eq_true_eq, Bool.not_eq_true']
      exact ⟨⟨h.isSensitive, hlength.1⟩, h.not_isPlaceholder⟩

/-- A secret that an assignment gives away is at least of medium severity. -/
theorem medium_le_of_sensitiveAssignment? {limits : SecretLimits} {assigned : Text × Text}
    {severity : Severity} {e : Nat}
    (h : sensitiveAssignment? limits assigned = some (severity, e)) : .medium ≤ severity := by
  unfold sensitiveAssignment? sensitiveAssignmentBy? at h
  split at h
  next =>
    rcases randomness?_eq_some.mp h with ⟨-, -, -, rfl⟩
    split <;> decide
  next => cases h

/-- The name that a line assigns first. -/
def firstName? (line : Text) : Option Text :=
  (Text.firstMatch? literalAssignment? line).map Prod.fst

theorem firstName?_eq_some {line name : Text} :
    firstName? line = some name ↔ ∃ a : LiteralAssignment line, a.IsFirst ∧ a.name = name := by
  simp only [firstName?, Option.map_eq_some_iff, Prod.exists, firstMatch?_literalAssignment?]
  constructor
  · intro h
    rcases h with ⟨_, _, ⟨a, hfirst, rfl, rfl⟩, rfl⟩
    exact ⟨a, hfirst, rfl⟩
  · intro h
    rcases h with ⟨a, hfirst, rfl⟩
    exact ⟨_, _, ⟨a, hfirst, rfl, rfl⟩, rfl⟩

/-- What is found on a line, by what comes first of: a credential of a known format, a first
assignment that gives a secret away, a random literal. -/
inductive Suspects (limits : SecretLimits) (line : Text) : Severity → SecretCause → Prop
  | credential {f : CredentialFormat} (hformat : credentialIn? line = some f) :
      Suspects limits line .high (.knownFormat f.provider)
  | assignment {severity : Severity} {e : Nat} (hnone : ¬ HoldsCredential line)
      (a : LiteralAssignment line) (hfirst : a.IsFirst)
      (htells : sensitiveAssignment? limits (a.name, a.literal) = some (severity, e)) :
      Suspects limits line severity (.sensitiveName e)
  | literal {e : Nat} (hnone : ¬ HoldsCredential line)
      (hsilent : ∀ a : LiteralAssignment line, a.IsFirst → ¬ a.Tells limits)
      (hrandom : (bareLiterals line).findSome? (randomLiteral? limits) = some e) :
      Suspects limits line .low (.randomLiteral e)

/-- What the first assignment of a line gives away. -/
theorem firstMatch?_bind_sensitiveAssignment?_eq_some {limits : SecretLimits} {line : Text}
    {severity : Severity} {e : Nat} :
    (Text.firstMatch? literalAssignment? line).bind (sensitiveAssignment? limits)
        = some (severity, e)
      ↔ ∃ a : LiteralAssignment line, a.IsFirst
          ∧ sensitiveAssignment? limits (a.name, a.literal) = some (severity, e) := by
  simp only [Option.bind_eq_some_iff, Prod.exists, firstMatch?_literalAssignment?]
  constructor
  · intro h
    rcases h with ⟨_, _, ⟨a, hfirst, rfl, rfl⟩, htells⟩
    exact ⟨a, hfirst, htells⟩
  · intro h
    rcases h with ⟨a, hfirst, htells⟩
    exact ⟨_, _, ⟨a, hfirst, rfl, rfl⟩, htells⟩

theorem firstMatch?_bind_sensitiveAssignment?_eq_none {limits : SecretLimits} {line : Text} :
    (Text.firstMatch? literalAssignment? line).bind (sensitiveAssignment? limits) = none
      ↔ ∀ a : LiteralAssignment line, a.IsFirst → ¬ a.Tells limits := by
  rw [Option.eq_none_iff_forall_ne_some]
  simp only [Ne, Prod.forall, firstMatch?_bind_sensitiveAssignment?_eq_some,
    ← sensitiveAssignment?_isSome, Option.isSome_iff_exists, Prod.exists, not_exists, not_and]
  constructor
  · intro h a hfirst severity e
    exact h severity e a hfirst
  · intro h severity e a hfirst
    exact h a hfirst severity e

theorem suspicion?_eq_some {limits : SecretLimits} {line : Text} {key : Option Text}
    {severity : Severity} {cause : SecretCause} :
    suspicion? limits line = some (key, severity, cause)
      ↔ key = firstName? line ∧ Suspects limits line severity cause := by
  simp only [suspicion?, suspicionBy?]
  constructor
  · -- what is found later was not found by what is looked for before it
    intro h
    split at h
    next f hformat =>
      cases h
      exact ⟨rfl, .credential hformat⟩
    next hnone =>
      have hno : ¬ HoldsCredential line := by simp [← credentialIn?_isSome, hnone]
      split at h
      next severity e htells =>
        rcases firstMatch?_bind_sensitiveAssignment?_eq_some.mp htells with ⟨a, hfirst, htells⟩
        cases h
        exact ⟨rfl, .assignment hno a hfirst htells⟩
      next hsilent =>
        rcases Option.map_eq_some_iff.mp h with ⟨e, hrandom, hfound⟩
        cases hfound
        exact ⟨rfl, .literal hno (firstMatch?_bind_sensitiveAssignment?_eq_none.mp hsilent)
          hrandom⟩
  · intro h
    rcases h with ⟨rfl, hsuspect⟩
    have hformat : ¬ HoldsCredential line → credentialIn? line = none := by
      rw [← credentialIn?_isSome]
      exact Option.not_isSome_iff_eq_none.mp
    cases hsuspect with
    | credential hformat =>
      simp only [hformat]
      rfl
    | assignment hno a hfirst htells =>
      simp only [hformat hno,
        firstMatch?_bind_sensitiveAssignment?_eq_some.mpr ⟨a, hfirst, htells⟩]
      rfl
    | literal hno hsilent hrandom =>
      simp only [hformat hno, firstMatch?_bind_sensitiveAssignment?_eq_none.mpr hsilent, hrandom]
      rfl

/-- The secrets of a file, by what is found on its lines. -/
theorem mem_sourceSecrets_iff_suspects {limits : SecretLimits} {file content : Text}
    {s : SourceSecret} :
    s ∈ sourceSecrets limits file content
      ↔ ∃ i line severity cause, IsChecked content i line ∧ Suspects limits line severity cause
          ∧ s = secretAt file i line (firstName? line) severity cause := by
  rw [mem_sourceSecrets]
  constructor
  · intro h
    rcases h with ⟨i, line, _, severity, cause, hchecked, hfound, rfl⟩
    rcases suspicion?_eq_some.mp hfound with ⟨rfl, hsuspects⟩
    exact ⟨i, line, severity, cause, hchecked, hsuspects, rfl⟩
  · intro h
    rcases h with ⟨i, line, severity, cause, hchecked, hsuspects, rfl⟩
    exact ⟨i, line, firstName? line, severity, cause, hchecked,
      suspicion?_eq_some.mpr ⟨rfl, hsuspects⟩, rfl⟩

/-- The secrets of one line, by what is found on it. -/
theorem exists_mem_sourceSecrets_on_line {limits : SecretLimits} {file content : Text} {i : Nat}
    {p : Severity → Prop} :
    (∃ s ∈ sourceSecrets limits file content, s.line = i + 1 ∧ p s.severity)
      ↔ ∃ line severity cause, IsChecked content i line ∧ Suspects limits line severity cause
          ∧ p severity := by
  constructor
  · intro h
    rcases h with ⟨s, hs, hline, hp⟩
    rcases mem_sourceSecrets_iff_suspects.mp hs with
      ⟨j, line, severity, cause, hchecked, hsuspects, rfl⟩
    rcases Nat.succ.inj hline with rfl
    exact ⟨line, severity, cause, hchecked, hsuspects, hp⟩
  · intro h
    rcases h with ⟨line, severity, cause, hchecked, hsuspects, hp⟩
    exact ⟨secretAt file i line (firstName? line) severity cause,
      mem_sourceSecrets_iff_suspects.mpr ⟨i, line, severity, cause, hchecked, hsuspects, rfl⟩,
      rfl, hp⟩

end EnvAudit
