import EnvAudit.Proofs.Source.SecretOnLine

/-!
# Literals that a line gives away

A line that assigns a random literal to a sensitive name should be reported, wherever on the line
the assignment stands.  The check reads one assignment of each line, the first:
`isReported_iff_tellsFirst` says which lines are reported, and on which sources these are all the
lines that give something away.
-/

namespace EnvAudit

/-! ## 1. Lines that give something away, and lines that are reported -/

/-- The line with this index is looked at, and one of its assignments gives a secret away. -/
def LeaksOn (limits : SecretLimits) (content : Text) (i : Nat) : Prop :=
  ∃ line, IsChecked content i line ∧ ∃ a : LiteralAssignment line, a.Tells limits

/-- A secret of at least medium severity is reported for the line with this index. -/
def IsReported (limits : SecretLimits) (file content : Text) (i : Nat) : Prop :=
  ∃ s ∈ sourceSecrets limits file content, s.line = i + 1 ∧ .medium ≤ s.severity

/-- What a line is reported for: it holds a credential, or its first assignment gives a secret
away. -/
def TellsFirst (limits : SecretLimits) (line : Text) : Prop :=
  HoldsCredential line ∨ ∃ a : LiteralAssignment line, a.IsFirst ∧ a.Tells limits

/-! ## 2. The severity of what is found -/

/-- A random literal is not of medium severity: what is, comes from a credential or from the first
assignment. -/
theorem Suspects.tellsFirst {limits : SecretLimits} {line : Text} {severity : Severity}
    {cause : SecretCause} (h : Suspects limits line severity cause) (hsevere : .medium ≤ severity) :
    TellsFirst limits line := by
  cases h with
  | credential hformat =>
    exact Or.inl (credentialIn?_isSome.mp (Option.isSome_of_eq_some hformat))
  | assignment _ a hfirst htells =>
    exact Or.inr ⟨a, hfirst, sensitiveAssignment?_isSome.mp (Option.isSome_of_eq_some htells)⟩
  | literal => exact absurd hsevere (by decide)

theorem TellsFirst.exists_suspects {limits : SecretLimits} {line : Text}
    (h : TellsFirst limits line) :
    ∃ severity cause, Suspects limits line severity cause ∧ .medium ≤ severity := by
  -- a credential is found first, whatever the line assigns
  by_cases hcredential : HoldsCredential line
  · rcases Option.isSome_iff_exists.mp (credentialIn?_isSome.mpr hcredential) with ⟨f, hformat⟩
    exact ⟨_, _, .credential hformat, by decide⟩
  · rcases h.resolve_left hcredential with ⟨a, hfirst, htells⟩
    rcases Option.isSome_iff_exists.mp (sensitiveAssignment?_isSome.mpr htells) with
      ⟨⟨severity, e⟩, hfound⟩
    exact ⟨_, _, .assignment hcredential a hfirst hfound,
      medium_le_of_sensitiveAssignment? hfound⟩

theorem isReported_iff {limits : SecretLimits} {file content : Text} {i : Nat} :
    IsReported limits file content i
      ↔ ∃ line, IsChecked content i line ∧ TellsFirst limits line := by
  unfold IsReported
  rw [exists_mem_sourceSecrets_on_line]
  constructor
  · intro h
    rcases h with ⟨line, severity, cause, hchecked, hsuspects, hsevere⟩
    exact ⟨line, hchecked, hsuspects.tellsFirst hsevere⟩
  · intro h
    rcases h with ⟨line, hchecked, htells⟩
    rcases htells.exists_suspects with ⟨severity, cause, hsuspects, hsevere⟩
    exact ⟨line, severity, cause, hchecked, hsuspects, hsevere⟩

/-! ## 3. Which leaks are reported -/

/-- The lines that are reported are those that hold a credential or give a secret away in their
first assignment.  So every line that gives something away is reported on just those sources where
each such line holds a credential or does so in its first assignment already. -/
theorem isReported_iff_tellsFirst (limits : SecretLimits) (file content : Text) :
    (∀ i, IsReported limits file content i
        ↔ ∃ line, IsChecked content i line ∧ TellsFirst limits line)
      ∧ ((∀ i, LeaksOn limits content i → IsReported limits file content i)
          ↔ ∀ i line, IsChecked content i line → (∃ a : LiteralAssignment line, a.Tells limits) →
              TellsFirst limits line) := by
  refine ⟨fun i => isReported_iff, ?_⟩
  constructor
  · intro h i line hchecked hleaks
    rcases isReported_iff.mp (h i ⟨line, hchecked, hleaks⟩) with ⟨line', hchecked', htells⟩
    rcases Option.some.inj (hchecked.1.symm.trans hchecked'.1) with rfl
    exact htells
  · intro h i hleaks
    rcases hleaks with ⟨line, hchecked, hleaks⟩
    exact isReported_iff.mpr ⟨line, hchecked, h i line hchecked hleaks⟩

/-- A password after a user name goes unreported. -/
theorem leaksOn_not_isReported :
    let line := "user = \"admin\", password = \"abcdefghijklmnopqrstuvwxyz012345\"".toList
    LeaksOn {} line 0 ∧ ¬ IsReported {} "src/db.ts".toList line 0 := by
  intro line
  constructor
  · have hread : Text.Reads literalAssignment? line "user = \"admin\", ".toList
        ("password".toList, "abcdefghijklmnopqrstuvwxyz012345".toList) :=
      ⟨_, rfl, by decide +kernel⟩
    rcases reads_literalAssignment?.mp hread with ⟨a, -, hname, hliteral⟩
    refine ⟨line, ⟨by decide +kernel, by decide +kernel⟩, a, ?_⟩
    rw [← sensitiveAssignment?_isSome, hname, hliteral]
    decide +kernel
  · have hnone : sourceSecrets {} "src/db.ts".toList line = [] := by decide +kernel
    intro h
    rcases h with ⟨s, hs, -⟩
    rw [hnone] at hs
    cases hs

end EnvAudit
