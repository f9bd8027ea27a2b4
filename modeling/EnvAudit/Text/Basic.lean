/-!
# Text

Text is a list of Unicode scalar values, so lengths and columns count scalars and every pass is a
recursion on the data.  This file holds the white-space class with trimming, the search for a
word inside a text, and the pieces of a text between separators.
-/

namespace EnvAudit

/-- Text is a list of Unicode scalar values. -/
abbrev Text := List Char

/-- The property White_Space of the Unicode standard. -/
def isBlank (c : Char) : Bool :=
  let n := c.toNat
  (9 ≤ n && n ≤ 13) || n == 0x20 || n == 0x85 || n == 0xA0 || n == 0x1680
    || (0x2000 ≤ n && n ≤ 0x200A) || n == 0x2028 || n == 0x2029 || n == 0x202F || n == 0x205F
    || n == 0x3000

namespace Text

/-! ## Trimming -/

def trimStart (s : Text) : Text := s.dropWhile isBlank

def trimEnd (s : Text) : Text := (s.reverse.dropWhile isBlank).reverse

/-- The text without the white space at its two ends. -/
def trim (s : Text) : Text := trimEnd (trimStart s)

/-! ## Words inside a text -/

/-- Whether `w` stands somewhere in the text. -/
def hasPart (w : Text) : Text → Bool
  | [] => w.isEmpty
  | c :: s => w.isPrefixOf (c :: s) || hasPart w s

/-- The text before and after the first `sep`. -/
def splitOnce? (sep : Char) : Text → Option (Text × Text)
  | [] => none
  | c :: s => if c = sep then some ([], s) else (splitOnce? sep s).map fun p => (c :: p.1, p.2)

/-- The pieces between the separators; a text without one is a single piece. -/
def pieces (sep : Char) : Text → List Text
  | [] => [[]]
  | c :: s =>
    if c = sep then [] :: pieces sep s
    else
      match pieces sep s with
      | [] => [[c]]
      | p :: ps => (c :: p) :: ps

theorem pieces_ne_nil (sep : Char) (s : Text) : pieces sep s ≠ [] := by
  cases s with
  | nil => simp [pieces]
  | cons c s =>
    unfold pieces
    split
    · simp
    · split <;> simp

/-- Pieces put together again, with `sep` between them. -/
def glue (sep : Text) : List Text → Text
  | [] => []
  | [p] => p
  | p :: ps => p ++ sep ++ glue sep ps

theorem glue_pieces (sep : Char) (s : Text) : glue [sep] (pieces sep s) = s := by
  induction s with
  | nil => rfl
  | cons c s ih =>
    unfold pieces
    split
    next h =>
      subst h
      cases hp : pieces c s with
      | nil => exact absurd hp (pieces_ne_nil c s)
      | cons p ps => rw [hp] at ih; simp [glue, ih]
    next h =>
      cases hp : pieces sep s with
      | nil => exact absurd hp (pieces_ne_nil sep s)
      | cons p ps =>
        rw [hp] at ih
        cases ps with
        | nil => simp_all [glue]
        | cons q qs => rw [← ih]; simp [glue]

/-- Every `a` replaced by `b`. -/
def replaceChar (a b : Char) (s : Text) : Text := s.map fun c => if c = a then b else c

/-! ## Numbers as text -/

def ofNat (n : Nat) : Text := Nat.toDigits 10 n

def ofInt : Int → Text
  | .ofNat n => ofNat n
  | .negSucc n => '-' :: ofNat (n + 1)

/-- A number in decimal with zeros in front up to the width. -/
def ofNatPadded (width n : Nat) : Text :=
  let digits := ofNat n
  List.replicate (width - digits.length) '0' ++ digits

end Text

/-! ## Lists -/

/-- The first occurrence of each element, in order. -/
def firsts {α : Type} [DecidableEq α] : List α → List α
  | [] => []
  | a :: as => a :: (firsts as).filter (fun b => decide (b ≠ a))

@[simp] theorem mem_firsts {α : Type} [DecidableEq α] {x : α} {xs : List α} :
    x ∈ firsts xs ↔ x ∈ xs := by
  induction xs with
  | nil => simp [firsts]
  | cons a as ih => by_cases h : x = a <;> simp [firsts, ih, h]

theorem nodup_firsts {α : Type} [DecidableEq α] (xs : List α) : (firsts xs).Nodup := by
  induction xs with
  | nil => simp [firsts]
  | cons a as ih => exact List.nodup_cons.mpr ⟨by simp, List.Pairwise.filter _ ih⟩

/-- Dropping elements before or after the repeats are dropped makes no difference. -/
theorem firsts_filter {α : Type} [DecidableEq α] (p : α → Bool) (xs : List α) :
    firsts (xs.filter p) = (firsts xs).filter p := by
  induction xs with
  | nil => rfl
  | cons a as ih =>
    by_cases ha : p a
    · rw [List.filter_cons_of_pos ha, firsts, firsts, ih, List.filter_cons_of_pos ha,
        List.filter_filter, List.filter_filter]
      simp only [Bool.and_comm]
    · rw [List.filter_cons_of_neg ha, firsts, ih, List.filter_cons_of_neg ha, List.filter_filter]
      apply List.filter_congr
      intro b _
      by_cases hb : b = a
      · simp [hb, ha]
      · simp [hb]

/-- What the elements weigh together. -/
def totalWeight {α : Type} (weight : α → Nat) : List α → Nat
  | [] => 0
  | a :: as => weight a + totalWeight weight as

theorem totalWeight_append {α : Type} (weight : α → Nat) (xs ys : List α) :
    totalWeight weight (xs ++ ys) = totalWeight weight xs + totalWeight weight ys := by
  induction xs with
  | nil => exact (Nat.zero_add _).symm
  | cons a as ih => rw [List.cons_append, totalWeight, totalWeight, ih, Nat.add_assoc]

/-- Each element paired with every later one. -/
def pairsInOrder {α : Type} : List α → List (α × α)
  | [] => []
  | a :: as => as.map (fun b => (a, b)) ++ pairsInOrder as

theorem pairsInOrder_filter {α : Type} (p : α → Bool) (xs : List α) :
    pairsInOrder (xs.filter p) = (pairsInOrder xs).filter fun q => p q.1 && p q.2 := by
  induction xs with
  | nil => rfl
  | cons a as ih =>
    rw [pairsInOrder, List.filter_append, ← ih, List.filter_map]
    by_cases ha : p a
    · rw [List.filter_cons_of_pos ha, pairsInOrder]
      simp [Function.comp_def, ha]
    · rw [List.filter_cons_of_neg ha]
      simp [Function.comp_def, ha]

end EnvAudit
