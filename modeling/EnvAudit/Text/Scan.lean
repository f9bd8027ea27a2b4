import EnvAudit.Text.Word

/-!
# Scanning

A reader takes what it looks for from the front of a text and returns what follows; it is told the
character before, so that it can ask for a word edge.  `occurs` asks whether a reader succeeds at
some place, `firstMatch?` returns the leftmost success and `matchesOf` all successes from left to
right, none of which begins inside an earlier one.
-/

namespace EnvAudit.Text

/-! ## Readers -/

/-- What follows the word `w` at the front. -/
def after? : Text → Text → Option Text
  | [], s => some s
  | _ :: _, [] => none
  | a :: w, c :: s => if a = c then after? w s else none

/-- What follows a word of lower-case ASCII letters, in whatever letter case it is written. -/
def afterAnyCase? : Text → Text → Option Text
  | [], s => some s
  | _ :: _, [] => none
  | a :: w, c :: s => if a = c.toLower then afterAnyCase? w s else none

/-- What follows the first of the words that stands at the front. -/
def afterSome? (ws : List Text) (s : Text) : Option Text := ws.findSome? fun w => after? w s

/-- What follows a character of the class. -/
def afterOne? (p : Char → Bool) : Text → Option Text
  | [] => none
  | c :: s => if p c then some s else none

/-- What follows exactly `n` characters of the class. -/
def afterExactly? (p : Char → Bool) : Nat → Text → Option Text
  | 0, s => some s
  | n + 1, s => (afterOne? p s).bind (afterExactly? p n)

/-- What follows the whole run of the class, if it has at least `n` characters. -/
def afterRun? (p : Char → Bool) (n : Nat) (s : Text) : Option Text :=
  if n ≤ (s.takeWhile p).length then some (s.dropWhile p) else none

/-- The text without the word at its front, if it is there. -/
def dropWord (w s : Text) : Text := (after? w s).getD s

theorem after?_eq_some {w s r : Text} : after? w s = some r ↔ s = w ++ r := by
  induction w generalizing s with
  | nil => simp [after?, eq_comm]
  | cons a w ih =>
    cases s with
    | nil => simp [after?]
    | cons c s =>
      by_cases h : a = c
      · simp [after?, h, ih]
      · simp [after?, h, Ne.symm h]

/-! ## Places -/

/-- Whether the test holds at some place, the end included. -/
def occursFrom (p : Option Char → Text → Bool) : Option Char → Text → Bool
  | before, [] => p before []
  | before, c :: s => p before (c :: s) || occursFrom p (some c) s

def occurs (p : Option Char → Text → Bool) (s : Text) : Bool := occursFrom p none s

/-- The value that the reader returns at the first place where it succeeds. -/
def firstMatchFrom? {α : Type} (read : Option Char → Text → Option α) :
    Option Char → Text → Option α
  | before, [] => read before []
  | before, c :: s => read before (c :: s) <|> firstMatchFrom? read (some c) s

def firstMatch? {α : Type} (read : Option Char → Text → Option α) (s : Text) : Option α :=
  firstMatchFrom? read none s

/-- A success of a reader: how many characters stand before it, and the value. -/
structure Match (α : Type) where
  offset : Nat
  value : α

/-- The successes from a place on, at which `offset` characters have gone by and the next `skip`
ones belong to an earlier success. -/
def matchesFrom {α : Type} (read : Option Char → Text → Option (α × Text)) :
    Nat → Nat → Option Char → Text → List (Match α)
  | _, _, _, [] => []
  | offset, skip + 1, _, c :: s => matchesFrom read (offset + 1) skip (some c) s
  | offset, 0, before, c :: s =>
    match read before (c :: s) with
    | none => matchesFrom read (offset + 1) 0 (some c) s
    | some (a, rest) =>
      ⟨offset, a⟩ :: matchesFrom read (offset + 1) (s.length - rest.length) (some c) s

/-- The successes of a reader that never returns what it was given, from left to right. -/
def matchesOf {α : Type} (read : Option Char → Text → Option (α × Text)) (s : Text) :
    List (Match α) :=
  matchesFrom read 0 0 none s

end EnvAudit.Text
