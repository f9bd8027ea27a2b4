import EnvAudit.Text.Scan

/-!
# The first place where a reader succeeds

A search hands a reader the text from a place on and the character before it.  `occurs_iff` and
`firstMatch?_eq_some` say what the search finds by the places of the text alone: a place is a split
of the text, and the character before it is the last one of the front part.  A character that
ends a text and begins one as far as a search can tell cuts its places in two: `occurs_append_cons`.
-/

namespace EnvAudit.Text

variable {α : Type}

/-! ## 1. Places -/

/-- The reader succeeds with the value at the place after `before`. -/
def Reads (read : Option Char → Text → Option α) (s before : Text) (a : α) : Prop :=
  ∃ after, s = before ++ after ∧ read before.getLast? after = some a

theorem Reads.read_take_drop {read : Option Char → Text → Option α} {s before : Text} {a : α}
    (h : Reads read s before a) :
    before.length ≤ s.length
      ∧ read (s.take before.length).getLast? (s.drop before.length) = some a := by
  rcases h with ⟨after, rfl, hread⟩
  rw [List.length_append, List.take_left, List.drop_left]
  exact ⟨Nat.le_add_right _ _, hread⟩

/-- The character before a place, in a text before which another character stands. -/
theorem getLast?_cons_or (prev : Option Char) (c : Char) (before : Text) :
    (c :: before).getLast?.or prev = before.getLast?.or (some c) := by
  rw [List.getLast?_cons]
  cases before.getLast? <;> rfl

/-! ## 2. Some place -/

theorem occursFrom_iff {p : Option Char → Text → Bool} {prev : Option Char} {s : Text} :
    occursFrom p prev s
      ↔ ∃ before after, s = before ++ after ∧ p (before.getLast?.or prev) after := by
  induction s generalizing prev with
  | nil =>
    constructor
    · intro h
      exact ⟨[], [], rfl, h⟩
    · rintro ⟨before, after, hs, h⟩
      obtain ⟨rfl, rfl⟩ := List.nil_eq_append_iff.mp hs
      exact h
  | cons c s ih =>
    rw [occursFrom, Bool.or_eq_true, ih]
    constructor
    · rintro (hhere | ⟨before, after, rfl, h⟩)
      · exact ⟨[], c :: s, rfl, hhere⟩
      · exact ⟨c :: before, after, rfl, by rwa [getLast?_cons_or]⟩
    · rintro ⟨before, after, hs, h⟩
      obtain ⟨rfl, rfl⟩ | ⟨before, rfl, rfl⟩ := List.cons_eq_append_iff.mp hs
      · exact Or.inl h
      · rw [getLast?_cons_or] at h
        exact Or.inr ⟨before, after, rfl, h⟩

/-- The test holds somewhere if it holds at a split of the text. -/
theorem occurs_iff {p : Option Char → Text → Bool} {s : Text} :
    occurs p s ↔ ∃ before after, s = before ++ after ∧ p before.getLast? after := by
  rw [occurs, occursFrom_iff]
  simp only [Option.or_none]

/-! ## 3. The first place -/

theorem firstMatchFrom?_cons (read : Option Char → Text → Option α) (prev : Option Char) (c : Char)
    (s : Text) :
    firstMatchFrom? read prev (c :: s)
      = (read prev (c :: s)).or (firstMatchFrom? read (some c) s) := by
  rw [firstMatchFrom?]
  cases read prev (c :: s) <;> rfl

/-- The search returns something if the reader succeeds somewhere. -/
theorem firstMatchFrom?_isSome (read : Option Char → Text → Option α) (prev : Option Char)
    (s : Text) :
    (firstMatchFrom? read prev s).isSome
      = occursFrom (fun before t => (read before t).isSome) prev s := by
  induction s generalizing prev with
  | nil => rfl
  | cons c s ih => rw [firstMatchFrom?_cons, occursFrom, Option.isSome_or, ih]

theorem firstMatch?_isSome (read : Option Char → Text → Option α) (s : Text) :
    (firstMatch? read s).isSome = occurs (fun before t => (read before t).isSome) s :=
  firstMatchFrom?_isSome read none s

theorem firstMatchFrom?_eq_some {read : Option Char → Text → Option α} {prev : Option Char}
    {s : Text} {a : α} :
    firstMatchFrom? read prev s = some a
      ↔ ∃ before after, s = before ++ after ∧ read (before.getLast?.or prev) after = some a
          ∧ ∀ front back, s = front ++ back → front.length < before.length →
              read (front.getLast?.or prev) back = none := by
  induction s generalizing prev with
  | nil =>
    constructor
    · intro h
      exact ⟨[], [], rfl, h, fun _ _ _ hlt => absurd hlt (Nat.not_lt_zero _)⟩
    · intro h
      rcases h with ⟨before, after, hs, hread, _⟩
      rcases List.nil_eq_append_iff.mp hs with ⟨rfl, rfl⟩
      exact hread
  | cons c s ih =>
    rw [firstMatchFrom?_cons, Option.or_eq_some_iff, ih]
    constructor
    · intro h
      rcases h with hread | ⟨hnone, before, after, rfl, hread, hfirst⟩
      · exact ⟨[], c :: s, rfl, hread, fun _ _ _ hlt => absurd hlt (Nat.not_lt_zero _)⟩
      · refine ⟨c :: before, after, rfl, by rwa [getLast?_cons_or], ?_⟩
        intro front back hs hlt
        rcases List.cons_eq_append_iff.mp hs with ⟨rfl, rfl⟩ | ⟨front, rfl, hs'⟩
        · exact hnone
        · rw [getLast?_cons_or]
          exact hfirst front back hs' (Nat.lt_of_succ_lt_succ hlt)
    · intro h
      rcases h with ⟨before, after, hs, hread, hfirst⟩
      rcases List.cons_eq_append_iff.mp hs with ⟨rfl, rfl⟩ | ⟨before, rfl, rfl⟩
      · exact Or.inl hread
      · rw [getLast?_cons_or] at hread
        refine Or.inr ⟨hfirst [] _ rfl (Nat.succ_pos _), before, after, rfl, hread, ?_⟩
        intro front back hs hlt
        rw [← getLast?_cons_or prev]
        exact hfirst (c :: front) back (congrArg (c :: ·) hs) (Nat.succ_lt_succ hlt)

/-- The search returns the value of the first place where the reader succeeds. -/
theorem firstMatch?_eq_some {read : Option Char → Text → Option α} {s : Text} {a : α} :
    firstMatch? read s = some a
      ↔ ∃ before, Reads read s before a
          ∧ ∀ front b, Reads read s front b → before.length ≤ front.length := by
  unfold firstMatch?
  rw [firstMatchFrom?_eq_some]
  simp only [Option.or_none]
  constructor
  · intro h
    rcases h with ⟨before, after, hs, hread, hfirst⟩
    refine ⟨before, ⟨after, hs, hread⟩, ?_⟩
    intro front b hb
    rcases hb with ⟨back, hs', hread'⟩
    apply Nat.le_of_not_lt
    intro hlt
    rw [hfirst front back hs' hlt] at hread'
    cases hread'
  · intro h
    rcases h with ⟨before, ⟨after, hs, hread⟩, hfirst⟩
    refine ⟨before, after, hs, hread, ?_⟩
    intro front back hs' hlt
    cases hread' : read front.getLast? back with
    | none => rfl
    | some b =>
      have hle := hfirst front b ⟨back, hs', hread'⟩
      omega

/-! ## 4. Places on both sides of a character -/

section

variable {p : Option Char → Text → Bool} {d : Char} {t : Text}

/-- A character that closes a text as its end does cuts the places in two. -/
theorem occursFrom_append_cons (hclose : ∀ before u, p before (u ++ d :: t) = p before u)
    (prev : Option Char) (s : Text) :
    occursFrom p prev (s ++ d :: t) = (occursFrom p prev s || occursFrom p (some d) t) := by
  induction s generalizing prev with
  | nil =>
    have hhere : p prev (d :: t) = p prev [] := hclose prev []
    rw [List.nil_append, occursFrom, occursFrom, hhere]
  | cons c s ih =>
    have hhere : p prev (c :: (s ++ d :: t)) = p prev (c :: s) := hclose prev (c :: s)
    rw [List.cons_append, occursFrom, occursFrom, hhere, ih, Bool.or_assoc]

/-- The same for a character that opens a text as its start does, too. -/
theorem occurs_append_cons (hclose : ∀ before u, p before (u ++ d :: t) = p before u)
    (hopen : ∀ u, p (some d) u = p none u) (s : Text) :
    occurs p (s ++ d :: t) = (occurs p s || occurs p t) := by
  -- only the first place looks at the character before the text
  have hstart : occursFrom p (some d) t = occursFrom p none t := by
    cases t with
    | nil => exact hopen []
    | cons c t => rw [occursFrom, occursFrom, hopen]
  rw [occurs, occursFrom_append_cons hclose, hstart]
  rfl

end

end EnvAudit.Text
