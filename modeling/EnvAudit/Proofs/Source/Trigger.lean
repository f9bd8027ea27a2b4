import EnvAudit.Proofs.Source.SecretOnLine
import EnvAudit.Proofs.Text.Matches

/-!
# The piece of a line that a secret is found for

Something is found on a line for the sake of a piece of it: a credential, the literal of the first
assignment, a random literal.  `IsTrigger` says which piece this is, and `exists_isTrigger` that
there always is one.
-/

namespace EnvAudit

/-! ## 1. Where a credential stands -/

theorem exists_of_afterSome? {ws : List Text} {s rest : Text}
    (h : Text.afterSome? ws s = some rest) : ∃ w, s = w ++ rest := by
  rcases List.exists_of_findSome?_eq_some h with ⟨w, -, hw⟩
  exact ⟨w, Text.after?_eq_some.mp hw⟩

theorem exists_of_afterExactly? {p : Char → Bool} {n : Nat} {s rest : Text}
    (h : Text.afterExactly? p n s = some rest) : ∃ w, s = w ++ rest := by
  induction n generalizing s with
  | zero => exact ⟨[], Option.some.inj h⟩
  | succ n ih =>
    rcases Option.bind_eq_some_iff.mp h with ⟨t, hone, ht⟩
    rcases afterOne?_eq_some.mp hone with ⟨c, -, rfl⟩
    rcases ih ht with ⟨w, rfl⟩
    exact ⟨c :: w, rfl⟩

/-- A part is taken from the front. -/
theorem Part.exists_of_after? {p : Part} {s rest : Text} (h : p.after? s = some rest) :
    ∃ w, s = w ++ rest := by
  cases p with
  | word choices => exact exists_of_afterSome? h
  | optional choices =>
    have hrest : (Text.afterSome? choices s).getD s = rest := Option.some.inj h
    cases hsome : Text.afterSome? choices s with
    | none =>
      rw [hsome] at hrest
      exact ⟨[], hrest⟩
    | some t =>
      rw [hsome] at hrest
      exact exists_of_afterSome? (hsome.trans (congrArg some hrest))
  | exactly n isPart => exact exists_of_afterExactly? h
  | atLeast n isPart =>
    simp only [Part.after?, Text.afterRun?] at h
    split at h
    next => exact ⟨s.takeWhile isPart, by rw [← Option.some.inj h, List.takeWhile_append_dropWhile]⟩
    next => cases h
  | wordEnd =>
    simp only [Part.after?] at h
    split at h
    next => exact ⟨[], Option.some.inj h⟩
    next => cases h

theorem exists_of_afterParts? {ps : List Part} {s rest : Text}
    (h : afterParts? ps s = some rest) : ∃ w, s = w ++ rest := by
  induction ps generalizing s with
  | nil => exact ⟨[], Option.some.inj h⟩
  | cons p ps ih =>
    rcases Option.bind_eq_some_iff.mp h with ⟨t, hpart, ht⟩
    rcases p.exists_of_after? hpart with ⟨u, rfl⟩
    rcases ih ht with ⟨w, rfl⟩
    exact ⟨u ++ w, (List.append_assoc u w rest).symm⟩

namespace CredentialFormat

/-- A credential of the format stands on the line, after `before`. -/
def StandsAfter (f : CredentialFormat) (line before value : Text) : Prop :=
  ∃ after, line = before ++ (value ++ after) ∧ (f.startsWord → Text.opensWord before.getLast?)
    ∧ afterParts? f.parts (value ++ after) = some after

/-- The credential of the format at the front. -/
def credential? (f : CredentialFormat) (before : Option Char) (s : Text) : Option Text :=
  if !f.startsWord || Text.opensWord before then
    (afterParts? f.parts s).map fun rest => s.take (s.length - rest.length)
  else none

theorem credential?_isSome (f : CredentialFormat) (before : Option Char) (s : Text) :
    (f.credential? before s).isSome = f.beginsHere before s := by
  unfold credential? beginsHere
  split
  next h => rw [h, Option.isSome_map, Bool.true_and]
  next h => rw [Bool.eq_false_iff.mpr h, Bool.false_and, Option.isSome_none]

theorem credential?_eq_some {f : CredentialFormat} {before : Option Char} {s value : Text} :
    f.credential? before s = some value
      ↔ (f.startsWord → Text.opensWord before)
          ∧ ∃ rest, s = value ++ rest ∧ afterParts? f.parts s = some rest := by
  have hopen : (!f.startsWord || Text.opensWord before) = true
      ↔ (f.startsWord → Text.opensWord before) := by
    cases f.startsWord <;> simp
  unfold credential?
  rw [← hopen]
  split
  next h =>
    rw [and_iff_right h, Option.map_eq_some_iff]
    have htake (rest w : Text) : (w ++ rest).take ((w ++ rest).length - rest.length) = w := by
      rw [List.length_append, Nat.add_sub_cancel, List.take_left]
    constructor
    · intro hparts
      rcases hparts with ⟨rest, hrest, rfl⟩
      rcases exists_of_afterParts? hrest with ⟨w, rfl⟩
      exact ⟨rest, by rw [htake], hrest⟩
    · intro hparts
      rcases hparts with ⟨rest, rfl, hrest⟩
      exact ⟨rest, hrest, htake rest value⟩
  next h => exact iff_of_false nofun fun hboth => h hboth.1

theorem reads_credential? {f : CredentialFormat} {line before value : Text} :
    Text.Reads f.credential? line before value ↔ f.StandsAfter line before value := by
  simp only [Text.Reads, StandsAfter, credential?_eq_some]
  constructor
  · intro h
    rcases h with ⟨_, rfl, hopen, after, rfl, hparts⟩
    exact ⟨after, rfl, hopen, hparts⟩
  · intro h
    rcases h with ⟨after, rfl, hopen, hparts⟩
    exact ⟨value ++ after, rfl, hopen, after, rfl, hparts⟩

/-- The search for a credential of the format returns the first one on the line. -/
theorem firstMatch?_credential? {f : CredentialFormat} {line value : Text} :
    Text.firstMatch? f.credential? line = some value
      ↔ ∃ before, f.StandsAfter line before value
          ∧ ∀ front other, f.StandsAfter line front other → before.length ≤ front.length := by
  rw [Text.firstMatch?_eq_some]
  simp only [reads_credential?]

/-- A line that holds a credential has a first one. -/
theorem exists_first_of_isIn {f : CredentialFormat} {line : Text} (h : f.isIn line) :
    ∃ before value, f.StandsAfter line before value
      ∧ ∀ front other, f.StandsAfter line front other → before.length ≤ front.length := by
  have hsome : (Text.firstMatch? f.credential? line).isSome := by
    rw [Text.firstMatch?_isSome]
    simp only [credential?_isSome]
    exact h
  rcases Option.isSome_iff_exists.mp hsome with ⟨value, hvalue⟩
  rcases firstMatch?_credential?.mp hvalue with ⟨before, hfirst⟩
  exact ⟨before, value, hfirst⟩

end CredentialFormat

/-! ## 2. Where a random literal stands -/

theorem exists_of_bareLiteral? {s literal rest : Text} (h : bareLiteral? s = some (literal, rest)) :
    ∃ opening closing, s = opening :: (literal ++ closing :: rest) := by
  unfold bareLiteral? at h
  rcases Option.bind_eq_some_iff.mp h with ⟨t, hopening, hinside⟩
  rcases Option.bind_eq_some_iff.mp hinside with ⟨_, -, hclosed⟩
  rcases Option.bind_eq_some_iff.mp hclosed with ⟨after, hclosing, hresult⟩
  rcases afterOne?_eq_some.mp hopening with ⟨opening, -, rfl⟩
  rcases afterOne?_eq_some.mp hclosing with ⟨closing, -, hafter⟩
  have hliteral : t.takeWhile (fun c => !isQuote c && !isBlank c) = literal :=
    congrArg Prod.fst (Option.some.inj hresult)
  have hrest : after = rest := congrArg Prod.snd (Option.some.inj hresult)
  refine ⟨opening, closing, ?_⟩
  rw [← hrest, ← hafter, ← hliteral, List.takeWhile_append_dropWhile]

/-- The first random literal among the quoted ones, and where it stands. -/
theorem exists_first_of_findSome? {limits : SecretLimits} {line : Text} {e : Nat}
    (h : (bareLiterals line).findSome? (randomLiteral? limits) = some e) :
    ∃ passed m rest, Text.matchesOf (fun _ s => bareLiteral? s) line = passed ++ m :: rest
      ∧ randomLiteral? limits m.value = some e
      ∧ ∀ other ∈ passed, randomLiteral? limits other.value = none := by
  rw [bareLiterals, List.findSome?_map] at h
  rcases List.findSome?_eq_some_iff.mp h with ⟨passed, m, rest, hsplit, hm, hpassed⟩
  exact ⟨passed, m, rest, hsplit, hm, hpassed⟩

/-! ## 3. The piece that a secret is found for -/

/-- The piece of the line for which something is found, by the cause of the finding: the first
credential of the format, the literal of the first assignment, the first random literal. -/
inductive IsTrigger (limits : SecretLimits) (line : Text) : SecretCause → Text.Match Text → Prop
  | credential {f : CredentialFormat} {before value : Text} (hformat : credentialIn? line = some f)
      (hstands : f.StandsAfter line before value)
      (hfirst : ∀ front other, f.StandsAfter line front other → before.length ≤ front.length) :
      IsTrigger limits line (.knownFormat f.provider) ⟨before.length, value⟩
  | assignment {e : Nat} (a : LiteralAssignment line) (hfirst : a.IsFirst) :
      IsTrigger limits line (.sensitiveName e) ⟨a.start, a.literal⟩
  | literal {e : Nat} {m : Text.Match Text} {passed rest : List (Text.Match Text)}
      (hmatches : Text.matchesOf (fun _ s => bareLiteral? s) line = passed ++ m :: rest)
      (hrandom : randomLiteral? limits m.value = some e)
      (hfirst : ∀ other ∈ passed, randomLiteral? limits other.value = none) :
      IsTrigger limits line (.randomLiteral e) ⟨m.offset + 1, m.value⟩

/-- Whatever is found on a line, is found for a piece of it. -/
theorem Suspects.exists_isTrigger {limits : SecretLimits} {line : Text} {severity : Severity}
    {cause : SecretCause} (h : Suspects limits line severity cause) :
    ∃ before value after, line = before ++ (value ++ after)
      ∧ IsTrigger limits line cause ⟨before.length, value⟩ := by
  cases h with
  | credential hformat =>
    have hin := List.find?_some hformat
    rcases CredentialFormat.exists_first_of_isIn hin with ⟨before, value, hstands, hfirst⟩
    rcases hstands with ⟨after, hline, hparts⟩
    exact ⟨before, value, after, hline, .credential hformat ⟨after, hline, hparts⟩ hfirst⟩
  | assignment _ a hfirst =>
    rcases a.exists_front with ⟨front, hline, hstart⟩
    refine ⟨front, a.literal, a.after, hline, ?_⟩
    rw [hstart]
    exact .assignment a hfirst
  | literal _ _ hrandom =>
    rcases exists_first_of_findSome? hrandom with ⟨passed, m, later, hmatches, hm, hpassed⟩
    have hmem : m ∈ Text.matchesOf (fun _ s => bareLiteral? s) line := by
      rw [hmatches]
      exact List.mem_append_cons_self
    rcases Text.exists_of_mem_matchesOf hmem with ⟨before, after, rest, rfl, hoffset, hread⟩
    rcases exists_of_bareLiteral? hread with ⟨opening, closing, rfl⟩
    refine ⟨before ++ [opening], m.value, closing :: rest, by simp, ?_⟩
    rw [List.length_append, ← hoffset]
    exact .literal hmatches hm hpassed

end EnvAudit
