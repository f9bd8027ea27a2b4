import EnvAudit.Project.Schema

/-!
# Brackets

The readers of a schema count brackets: `braceBody?` the braces alone, up to the one that closes
the block, and `outerText` the brackets of all kinds with one counter.  `openAfter?` is the count
itself.  The body of a block is the front part that closes just what it opens
(`braceBody?_eq_some`), and a part with balanced brackets is flattened by itself
(`outerText_append`).
-/

namespace EnvAudit

/-! ## 1. Counting -/

/-- How many brackets are open behind a text, if `depth` are open before it; `none` if it closes
one where none is open. -/
def openAfter? (opens closes : Char → Bool) : Nat → Text → Option Nat
  | depth, [] => some depth
  | depth, c :: s =>
    if opens c then openAfter? opens closes (depth + 1) s
    else if closes c then
      if depth = 0 then none else openAfter? opens closes (depth - 1) s
    else openAfter? opens closes depth s

/-- The text closes all the brackets that it opens, and no others. -/
def IsBalanced (opens closes : Char → Bool) (s : Text) : Prop :=
  openAfter? opens closes 0 s = some 0

instance (opens closes : Char → Bool) (s : Text) : Decidable (IsBalanced opens closes s) :=
  inferInstanceAs (Decidable (_ = _))

section

variable {opens closes : Char → Bool}

theorem openAfter?_append (depth : Nat) (s t : Text) :
    openAfter? opens closes depth (s ++ t)
      = (openAfter? opens closes depth s).bind fun depth' => openAfter? opens closes depth' t := by
  induction s generalizing depth with
  | nil => rfl
  | cons c s ih =>
    rw [List.cons_append, openAfter?, openAfter?, ih, ih, ih]
    split
    · rfl
    · split
      · split <;> rfl
      · rfl

theorem IsBalanced.append {s t : Text} (hs : IsBalanced opens closes s)
    (ht : IsBalanced opens closes t) : IsBalanced opens closes (s ++ t) := by
  unfold IsBalanced at hs ht ⊢
  rw [openAfter?_append, hs, Option.bind_some, ht]

/-- A text without brackets. -/
theorem isBalanced_of_forall {s : Text} (hs : ∀ c ∈ s, !opens c && !closes c) :
    IsBalanced opens closes s := by
  induction s with
  | nil => rfl
  | cons c s ih =>
    obtain ⟨hc, hs⟩ := List.forall_mem_cons.mp hs
    rw [Bool.and_eq_true, Bool.not_eq_true', Bool.not_eq_true'] at hc
    rw [IsBalanced, openAfter?, hc.1, hc.2]
    exact ih hs

end

/-! ## 2. The body of a block -/

def isLeftBrace (c : Char) : Bool := c == '\x7b'

def isRightBrace (c : Char) : Bool := c == '\x7d'

section

variable {depth : Nat} {c : Char} {s body : Text}

/-- The text begins with a body and the brace that closes it, where `depth` more are open. -/
def EndsBody (depth : Nat) (s body : Text) : Prop :=
  ∃ after, s = body ++ '\x7d' :: after
    ∧ openAfter? isLeftBrace isRightBrace depth body = some 0

theorem endsBody_cons :
    EndsBody depth (c :: s) body
      ↔ (body = [] ∧ c = '\x7d' ∧ depth = 0)
        ∨ ∃ body', body = c :: body' ∧ ∃ after, s = body' ++ '\x7d' :: after
            ∧ openAfter? isLeftBrace isRightBrace depth (c :: body') = some 0 := by
  constructor
  · intro h
    obtain ⟨after, hs, hopen⟩ := h
    cases body with
    | nil => exact Or.inl ⟨rfl, (List.cons.inj hs).1, Option.some.inj hopen⟩
    | cons d body =>
      obtain ⟨rfl, rfl⟩ := List.cons.inj hs
      exact Or.inr ⟨body, rfl, after, rfl, hopen⟩
  · intro h
    obtain ⟨rfl, rfl, rfl⟩ | ⟨body', rfl, after, rfl, hopen⟩ := h
    · exact ⟨s, rfl, rfl⟩
    · exact ⟨after, rfl, hopen⟩

/-- The body of a block ends at the first brace that closes one more than the body has opened. -/
theorem braceBody?_eq_some : braceBody? (depth + 1) s = some body ↔ EndsBody depth s body := by
  induction s generalizing depth body with
  | nil =>
    refine iff_of_false (fun h => nomatch h) ?_
    intro h
    obtain ⟨after, hs, _⟩ := h
    exact List.append_ne_nil_of_right_ne_nil body (List.cons_ne_nil _ after) hs.symm
  | cons c s ih =>
    -- a character that does not end the body belongs to it, and the count goes on behind it
    have hcons {depth' : Nat} (hne : ¬ (c = '\x7d' ∧ depth = 0))
        (hopen : ∀ body', openAfter? isLeftBrace isRightBrace depth (c :: body')
          = openAfter? isLeftBrace isRightBrace depth' body') :
        (braceBody? (depth' + 1) s).map (c :: ·) = some body ↔ EndsBody depth (c :: s) body := by
      rw [endsBody_cons, or_iff_right (fun h => hne h.2), Option.map_eq_some_iff]
      simp only [ih, hopen]
      constructor
      · intro h
        obtain ⟨body', hbody', rfl⟩ := h
        exact ⟨body', rfl, hbody'⟩
      · intro h
        obtain ⟨body', rfl, hbody'⟩ := h
        exact ⟨body', hbody', rfl⟩
    rw [braceBody?]
    split
    next hleft =>
      subst hleft
      exact hcons (fun h => absurd h.1 (by decide)) fun _ => rfl
    next hleft =>
      split
      next hright =>
        subst hright
        cases depth with
        | zero =>
          rw [if_pos (by decide), endsBody_cons, or_iff_left, Option.some.injEq, eq_comm]
          · exact ⟨fun h => ⟨h, rfl, rfl⟩, fun h => h.1⟩
          · intro h
            obtain ⟨_, _, _, _, hopen⟩ := h
            exact nomatch hopen
        | succ depth =>
          rw [if_neg (by omega)]
          exact hcons (by simp) fun _ => rfl
      next hright =>
        refine hcons (fun h => hright h.1) fun body' => ?_
        rw [openAfter?, if_neg (by simpa [isLeftBrace] using hleft),
          if_neg (by simpa [isRightBrace] using hright)]

end

/-! ## 3. The text outside brackets -/

/-- The characters outside all brackets; `depth` counts the open ones. -/
def outside (depth : Nat) : Text → Text
  | [] => []
  | c :: s =>
    if isOpening c then outside (depth + 1) s
    else if isClosing c then outside (depth - 1) s
    else if depth = 0 then c :: outside depth s
    else outside depth s

/-- Where no comma stands outside brackets, just what stands inside them goes. -/
theorem outerText_append {depth depth' : Nat} {s : Text}
    (hs : openAfter? isOpening isClosing depth s = some depth') (hcomma : ',' ∉ outside depth s)
    (t : Text) : outerText depth (s ++ t) = outside depth s ++ outerText depth' t := by
  induction s generalizing depth with
  | nil =>
    cases hs
    rfl
  | cons c s ih =>
    rw [openAfter?] at hs
    rw [outside] at hcomma
    rw [List.cons_append, outerText, outside]
    split at hs
    next hopening =>
      rw [if_pos hopening] at hcomma ⊢
      rw [if_pos hopening, ih hs hcomma]
    next hopening =>
      rw [if_neg hopening] at hcomma ⊢
      rw [if_neg hopening]
      split at hs
      next hclosing =>
        rw [if_pos hclosing] at hcomma ⊢
        rw [if_pos hclosing]
        split at hs
        next => cases hs
        next => rw [ih hs hcomma]
      next hclosing =>
        rw [if_neg hclosing] at hcomma ⊢
        rw [if_neg hclosing]
        split at hcomma
        next hzero =>
          rw [List.mem_cons, not_or] at hcomma
          obtain ⟨hne, hcomma⟩ := hcomma
          rw [if_pos hzero, if_pos hzero, if_neg (Ne.symm hne), ih hs hcomma, List.cons_append]
        next hzero => rw [if_neg hzero, if_neg hzero, ih hs hcomma]

/-- A text without brackets is outside of them. -/
theorem outside_eq_self {s : Text} (hs : ∀ c ∈ s, !isOpening c && !isClosing c) :
    outside 0 s = s := by
  induction s with
  | nil => rfl
  | cons c s ih =>
    obtain ⟨hc, hs⟩ := List.forall_mem_cons.mp hs
    rw [Bool.and_eq_true, Bool.not_eq_true', Bool.not_eq_true'] at hc
    rw [outside, hc.1, hc.2, ih hs]
    rfl

end EnvAudit
