import EnvAudit.Source.Secret

/-!
# Length limits

Two limits say how long a literal has to be before a line is reported for it.  At most one thing is
found on a line, so with lower limits another rule or another literal may be the one that is
reported; `sourceSecrets_of_le` says that the line is reported all the same, and no less severely.
How random a text is plays no part in this: it holds for any measure of it.
-/

namespace EnvAudit

/-! ## 1. Lower limits -/

/-- No limit is above the one it is compared with. -/
instance : LE SecretLimits :=
  ⟨fun a b => a.minSensitiveLength ≤ b.minSensitiveLength ∧ a.minLiteralLength ≤ b.minLiteralLength⟩

theorem Severity.low_le (a : Severity) : .low ≤ a := Nat.zero_le _

section

variable {measure : Text → Nat} {lower limits : SecretLimits} (h : lower ≤ limits)
include h

theorem sensitiveAssignmentBy?_of_le {assigned : Text × Text} {found : Severity × Nat}
    (hfound : sensitiveAssignmentBy? measure limits assigned = some found) :
    sensitiveAssignmentBy? measure lower assigned = some found := by
  unfold sensitiveAssignmentBy? at hfound ⊢
  split at hfound
  next htells =>
    simp only [Bool.and_eq_true, decide_eq_true_eq] at htells
    have hlength := Nat.le_trans h.1 htells.1.2
    simpa only [htells.1.1, hlength, htells.2, decide_true, Bool.and_true, if_true] using hfound
  next => cases hfound

theorem randomLiteralBy?_of_le {literal : Text} {e : Nat}
    (hfound : randomLiteralBy? measure limits literal = some e) :
    randomLiteralBy? measure lower literal = some e := by
  unfold randomLiteralBy? at hfound ⊢
  split at hfound
  next hrandom =>
    simp only [Bool.and_eq_true, decide_eq_true_eq] at hrandom
    have hlength := Nat.le_trans h.2 hrandom.1.1
    simpa only [hlength, hrandom.1.2, hrandom.2, decide_true, Bool.and_true, if_true] using hfound
  next => cases hfound

/-- Some literal of the line is found random, though perhaps an earlier one. -/
theorem findSome?_randomLiteralBy?_isSome {literals : List Text}
    (hfound : (literals.findSome? (randomLiteralBy? measure limits)).isSome) :
    (literals.findSome? (randomLiteralBy? measure lower)).isSome := by
  rw [List.findSome?_isSome_iff] at hfound ⊢
  rcases hfound with ⟨literal, hmem, hrandom⟩
  rcases Option.isSome_iff_exists.mp hrandom with ⟨e, he⟩
  exact ⟨literal, hmem, Option.isSome_of_eq_some (randomLiteralBy?_of_le h he)⟩

/-- What is found on a line under higher limits, or something no less severe, is found under lower
ones.  The rules are tried in one order under both limits: a credential does not look at them, a
sensitive name that is found stays found, and a random literal comes last and is of the lowest
severity. -/
theorem exists_suspicionBy?_of_le {line : Text} {key : Option Text} {severity : Severity}
    {cause : SecretCause}
    (hfound : suspicionBy? measure limits line = some (key, severity, cause)) :
    ∃ severity' cause', suspicionBy? measure lower line = some (key, severity', cause')
      ∧ severity ≤ severity' := by
  simp only [suspicionBy?] at hfound ⊢
  generalize Text.firstMatch? literalAssignment? line = assigned at hfound ⊢
  cases hformat : credentialIn? line with
  | some f =>
    simp only [hformat] at hfound ⊢
    cases hfound
    exact ⟨.high, _, rfl, Nat.le_refl _⟩
  | none =>
    simp only [hformat] at hfound ⊢
    split at hfound
    next severity' e hassigned =>
      rcases Option.bind_eq_some_iff.mp hassigned with ⟨pair, rfl, htells⟩
      cases hfound
      rw [Option.bind_some, sensitiveAssignmentBy?_of_le h htells]
      exact ⟨severity, _, rfl, Nat.le_refl _⟩
    next hsilent =>
      rcases Option.map_eq_some_iff.mp hfound with ⟨e, hliteral, heq⟩
      cases heq
      split
      next severity e' hassigned => exact ⟨severity, _, rfl, severity.low_le⟩
      next hsilent' =>
        have hsome := findSome?_randomLiteralBy?_isSome h (Option.isSome_of_eq_some hliteral)
        rcases Option.isSome_iff_exists.mp hsome with ⟨e', he'⟩
        rw [he']
        exact ⟨.low, _, rfl, Nat.le_refl _⟩

end

/-! ## 2. The secrets of a file -/

/-- The same line is reported, for the same key and no less severely. -/
structure SourceSecret.Covers (s' s : SourceSecret) : Prop where
  file : s'.file = s.file
  line : s'.line = s.line
  snippet : s'.snippet = s.snippet
  key : s'.key = s.key
  severity : s.severity ≤ s'.severity

theorem exists_covers_of_le {measure : Text → Nat} {lower limits : SecretLimits}
    (h : lower ≤ limits) {file content : Text} {s : SourceSecret}
    (hs : s ∈ sourceSecretsBy measure limits file content) :
    ∃ s' ∈ sourceSecretsBy measure lower file content, s'.Covers s := by
  rcases List.mem_filterMap.mp hs with ⟨line, hline, hfound⟩
  unfold secretOnLineBy? at hfound
  split at hfound
  next => cases hfound
  next hkept =>
    rcases Option.map_eq_some_iff.mp hfound with ⟨⟨key, severity, cause⟩, hsuspicion, rfl⟩
    rcases exists_suspicionBy?_of_le h hsuspicion with ⟨severity', cause', hlower, hsevere⟩
    refine ⟨⟨key, cause', severity', file, line.number, snippet line.text⟩, ?_,
      rfl, rfl, rfl, rfl, hsevere⟩
    refine List.mem_filterMap.mpr ⟨line, hline, ?_⟩
    rw [secretOnLineBy?, if_neg hkept, hlower]
    rfl

/-- **Lower limits find no less**: whatever measure of randomness is taken, entropy or another, a
line that is reported under some limits is reported under lower ones as well, with the same number
and snippet, for the same key and at least as severely. -/
theorem sourceSecrets_of_le {lower limits : SecretLimits} (h : lower ≤ limits)
    (file content : Text) :
    (∀ measure, ∀ s ∈ sourceSecretsBy measure limits file content,
        ∃ s' ∈ sourceSecretsBy measure lower file content, s'.Covers s)
      ∧ ∀ s ∈ sourceSecrets limits file content,
          ∃ s' ∈ sourceSecrets lower file content, s'.Covers s := by
  constructor
  · intro measure s hs
    exact exists_covers_of_le h hs
  · intro s hs
    exact exists_covers_of_le h hs

/-- Under the higher limits the password is only a random literal of some length. -/
theorem sourceSecrets_of_le_password :
    let line := "password = 'abcdefghijklmnopqrstuvwxyz0123456789ABCD'".toList
    let s : SourceSecret :=
      ⟨some "password".toList,
        .randomLiteral (entropy "abcdefghijklmnopqrstuvwxyz0123456789ABCD".toList), .low,
        "a.ts".toList, 1, line⟩
    ({} : SecretLimits) ≤ ⟨100, 40⟩
      ∧ s ∈ sourceSecrets ⟨100, 40⟩ "a.ts".toList line
      ∧ (∃ s' ∈ sourceSecrets {} "a.ts".toList line, s'.Covers s)
      ∧ (sourceSecrets {} "a.ts".toList line).map (·.severity) = [.medium] := by
  intro line s
  have hle : ({} : SecretLimits) ≤ ⟨100, 40⟩ := ⟨by decide, by decide⟩
  have hs : s ∈ sourceSecrets ⟨100, 40⟩ "a.ts".toList line := by decide +kernel
  exact ⟨hle, hs, (sourceSecrets_of_le hle "a.ts".toList line).2 s hs, by decide +kernel⟩

end EnvAudit
