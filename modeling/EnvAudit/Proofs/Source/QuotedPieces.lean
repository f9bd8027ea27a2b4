import Mathlib.Algebra.Group.Nat.Even
import Mathlib.Data.List.DropRight
import EnvAudit.Proofs.Source.LeakedLiteral
import EnvAudit.Proofs.Text.Matches

/-!
# Quoted literals on a line

The search for literals does not know which quotes open and which close.  It goes from quote to
quote and takes every piece between two of them that is bare, not empty and without white space;
with a piece it uses up the quotes on both sides.  A bare literal is so missed where an odd number
of bare pieces stands directly in front (`mem_takenPieces`), which takes a bare piece between two
literals, as the comma in `("two words","a")`.
-/

namespace EnvAudit

/-! ## 1. Pieces between quotes -/

def QuoteFree (t : Text) : Prop := ∀ c ∈ t, ¬ isQuote c

instance (t : Text) : Decidable (QuoteFree t) := List.decidableBAll _ t

/-- Something without white space. -/
def IsBare (p : Text) : Prop := p ≠ [] ∧ ∀ c ∈ p, ¬ isBlank c

instance (p : Text) : Decidable (IsBare p) := @instDecidableAnd _ _ _ (List.decidableBAll _ p)

/-- The pieces that the search takes for literals, of those behind each quote of a line; the last
one has no quote behind it. -/
def takenPieces : List Text → List Text
  | p :: q :: ps => if IsBare p then p :: takenPieces ps else takenPieces (q :: ps)
  | _ => []

/-- What a bare literal is made of. -/
def isLiteralPart (c : Char) : Bool := !isQuote c && !isBlank c

theorem forall_isLiteralPart_iff {t : Text} :
    (∀ c ∈ t, isLiteralPart c) ↔ QuoteFree t ∧ ∀ c ∈ t, ¬ isBlank c := by
  simp only [isLiteralPart, QuoteFree, Bool.and_eq_true, Bool.not_eq_true', Bool.not_eq_true,
    forall_and]

theorem bareLiteral?_cons {opening : Char} (hopening : isQuote opening) (t : Text) :
    bareLiteral? (opening :: t)
      = if t.takeWhile isLiteralPart = [] then none
        else (Text.afterOne? isQuote (t.dropWhile isLiteralPart)).map fun rest =>
          (t.takeWhile isLiteralPart, rest) := by
  have hopen : Text.afterOne? isQuote (opening :: t) = some t := if_pos hopening
  have heq : bareLiteral? (opening :: t)
      = (guard (!(t.takeWhile isLiteralPart).isEmpty) : Option Unit).bind fun _ =>
          (Text.afterOne? isQuote (t.dropWhile isLiteralPart)).bind fun rest =>
            some (t.takeWhile isLiteralPart, rest) := by
    rw [bareLiteral?, hopen]
    rfl
  rw [heq, Option.map_eq_bind]
  by_cases hnil : t.takeWhile isLiteralPart = []
  · rw [if_pos hnil, hnil]
    rfl
  · rw [if_neg hnil, List.isEmpty_eq_false_iff.mpr hnil]
    rfl

theorem bareLiteral?_cons_eq_some {opening : Char} (hopening : isQuote opening)
    {t literal rest : Text} :
    bareLiteral? (opening :: t) = some (literal, rest)
      ↔ ∃ closing, isQuote closing ∧ t = literal ++ closing :: rest ∧ QuoteFree literal
          ∧ IsBare literal := by
  rw [bareLiteral?_cons hopening]
  constructor
  · intro h
    split at h
    next => cases h
    next hne =>
      rcases Option.map_eq_some_iff.mp h with ⟨after, hclosed, hresult⟩
      rcases Prod.mk.inj hresult with ⟨rfl, rfl⟩
      rcases afterOne?_eq_some.mp hclosed with ⟨closing, hclosing, hafter⟩
      have hpart := forall_isLiteralPart_iff.mp fun c hc =>
        List.mem_takeWhile_imp (p := isLiteralPart) (l := t) hc
      refine ⟨closing, hclosing, ?_, hpart.1, hne, hpart.2⟩
      rw [← hafter, List.takeWhile_append_dropWhile]
  · intro h
    rcases h with ⟨closing, hclosing, rfl, hfree, hne, hbare⟩
    have hpart := forall_isLiteralPart_iff.mpr ⟨hfree, hbare⟩
    have hstop : ¬ isLiteralPart closing := by simp [isLiteralPart, hclosing]
    rw [List.takeWhile_append_of_pos hpart, List.dropWhile_append_of_pos hpart,
      List.takeWhile_cons_of_neg hstop, List.dropWhile_cons_of_neg hstop, List.append_nil,
      if_neg hne, Text.afterOne?, if_pos hclosing, Option.map_some]

theorem bareLiteral?_cons_of_not_isQuote {c : Char} (h : ¬ isQuote c) (s : Text) :
    bareLiteral? (c :: s) = none := by
  simp [bareLiteral?, Text.afterOne?, h]

theorem bareLiterals_append {t : Text} (h : QuoteFree t) (s : Text) :
    bareLiterals (t ++ s) = bareLiterals s := by
  induction t with
  | nil => rfl
  | cons c t ih =>
    rw [QuoteFree, List.forall_mem_cons] at h
    rw [← ih h.2]
    exact Text.map_value_matchesOf_cons_of_none (bareLiteral?_cons_of_not_isQuote h.1 (t ++ s))

/-- Where the first quote of a text stands is plain from the text. -/
theorem eq_of_append_quote {p literal s rest : Text} {closing closing' : Char}
    (hp : QuoteFree p) (hliteral : QuoteFree literal) (hclosing : isQuote closing)
    (hclosing' : isQuote closing')
    (h : p ++ closing :: s = literal ++ closing' :: rest) : p = literal := by
  have htake {t : Text} (ht : QuoteFree t) {c : Char} (hc : isQuote c) (r : Text) :
      (t ++ c :: r).takeWhile (fun d => !isQuote d) = t := by
    rw [List.takeWhile_append_of_pos fun d hd => by simp [ht d hd],
      List.takeWhile_cons_of_neg (by simp [hc]), List.append_nil]
  rw [← htake hp hclosing s, h, htake hliteral hclosing' rest]

section

variable {opening closing : Char} (hopening : isQuote opening) (hclosing : isQuote closing)
include hopening

include hclosing in
theorem bareLiterals_of_isBare {p : Text} (hp : QuoteFree p) (hbare : IsBare p) (s : Text) :
    bareLiterals (opening :: (p ++ closing :: s)) = p :: bareLiterals s := by
  have hsplit : p ++ closing :: s = (p ++ [closing]) ++ s := List.append_cons p closing s
  have hread : bareLiteral? (opening :: ((p ++ [closing]) ++ s)) = some (p, s) := by
    rw [bareLiteral?_cons_eq_some hopening, ← hsplit]
    exact ⟨closing, hclosing, rfl, hp, hbare⟩
  rw [hsplit]
  exact Text.map_value_matchesOf_cons_of_some hread

include hclosing in
theorem bareLiterals_of_not_isBare {p : Text} (hp : QuoteFree p) (hbare : ¬ IsBare p) (s : Text) :
    bareLiterals (opening :: (p ++ closing :: s)) = bareLiterals (closing :: s) := by
  have hread : bareLiteral? (opening :: (p ++ closing :: s)) = none := by
    rw [Option.eq_none_iff_forall_ne_some]
    rintro ⟨literal, rest⟩ hsome
    rcases (bareLiteral?_cons_eq_some hopening).mp hsome with
      ⟨closing', hclosing', hsplit, hfree, hliteral⟩
    rw [eq_of_append_quote hp hfree hclosing hclosing' hsplit] at hbare
    exact hbare hliteral
  rw [← bareLiterals_append hp (closing :: s)]
  exact Text.map_value_matchesOf_cons_of_none hread

theorem bareLiterals_of_quoteFree {p : Text} (hp : QuoteFree p) :
    bareLiterals (opening :: p) = [] := by
  have hread : bareLiteral? (opening :: p) = none := by
    rw [Option.eq_none_iff_forall_ne_some]
    rintro ⟨literal, rest⟩ hsome
    rcases (bareLiteral?_cons_eq_some hopening).mp hsome with ⟨closing, hclosing, rfl, -, -⟩
    exact hp closing (by simp) hclosing
  have hrest : bareLiterals (p ++ []) = bareLiterals [] := bareLiterals_append hp []
  rw [List.append_nil] at hrest
  rw [bareLiterals, Text.map_value_matchesOf_cons_of_none hread]
  exact hrest

end

/-- The search takes the pieces from quote to quote. -/
theorem bareLiterals_flatMap {ps : List Text} (h : ∀ p ∈ ps, QuoteFree p) :
    bareLiterals (ps.flatMap fun p => '"' :: p) = takenPieces ps := by
  fun_induction takenPieces ps with
  | case1 p q ps hbare ih =>
    rw [List.forall_mem_cons, List.forall_mem_cons] at h
    rw [← ih h.2.2, List.flatMap_cons, List.flatMap_cons, List.cons_append, List.cons_append,
      bareLiterals_of_isBare (by decide) (by decide) h.1 hbare, bareLiterals_append h.2.1]
  | case2 p q ps hbare ih =>
    rw [List.forall_mem_cons] at h
    rw [← ih h.2, List.flatMap_cons, List.flatMap_cons, List.cons_append, List.cons_append,
      bareLiterals_of_not_isBare (by decide) (by decide) h.1 hbare]
  | case3 ps hshort =>
    cases ps with
    | nil => rfl
    | cons p ps =>
      cases ps with
      | nil =>
        rw [List.flatMap_singleton]
        exact bareLiterals_of_quoteFree (by decide) (h p List.mem_cons_self)
      | cons q ps => exact absurd rfl (hshort p q ps)

/-! ## 2. Which pieces are taken -/

/-- The bare pieces at the end of the list, one after another. -/
def bareRun (ps : List Text) : List Text := ps.rtakeWhile fun p => decide (IsBare p)

theorem bareRun_concat_of_isBare {p : Text} (h : IsBare p) (ps : List Text) :
    bareRun (ps ++ [p]) = bareRun ps ++ [p] :=
  List.rtakeWhile_concat_pos _ ps p (decide_eq_true h)

theorem bareRun_concat_of_not {p : Text} (h : ¬ IsBare p) (ps : List Text) :
    bareRun (ps ++ [p]) = [] :=
  List.rtakeWhile_concat_neg _ ps p (by simp [h])

theorem length_bareRun_cons (p : Text) (ps : List Text) :
    (bareRun (p :: ps)).length
      = (bareRun ps).length + if ∀ r ∈ p :: ps, IsBare r then 1 else 0 := by
  induction ps using List.reverseRecOn with
  | nil => by_cases hp : IsBare p <;> simp [bareRun, List.rtakeWhile, hp]
  | append_singleton ps x ih =>
    rw [← List.cons_append]
    by_cases hx : IsBare x
    · have hall : (∀ r ∈ p :: ps ++ [x], IsBare r) ↔ ∀ r ∈ p :: ps, IsBare r := by
        simp [or_imp, forall_and, hx]
      rw [bareRun_concat_of_isBare hx, bareRun_concat_of_isBare hx, List.length_append,
        List.length_append, ih, if_congr hall rfl rfl, Nat.add_right_comm]
    · have hsome : ¬ ∀ r ∈ p :: ps ++ [x], IsBare r := fun h => hx (h x (by simp))
      rw [bareRun_concat_of_not hx, bareRun_concat_of_not hx, if_neg hsome,
        Nat.add_zero]

theorem length_bareRun_cons_of_not {p : Text} (hp : ¬ IsBare p) (ps : List Text) :
    (bareRun (p :: ps)).length = (bareRun ps).length := by
  rw [length_bareRun_cons, if_neg fun h => hp (h p List.mem_cons_self), Nat.add_zero]

/-- A bare piece and the one behind it are both in the run or neither is, or it ends with the one
behind. -/
theorem even_length_bareRun_cons_cons {p : Text} (hp : IsBare p) (q : Text) (ps : List Text) :
    Even (bareRun (p :: q :: ps)).length ↔ Even (bareRun ps).length := by
  have hall : (∀ r ∈ p :: q :: ps, IsBare r) ↔ ∀ r ∈ q :: ps, IsBare r := by
    rw [List.forall_mem_cons, and_iff_right hp]
  rw [length_bareRun_cons, length_bareRun_cons, if_congr hall rfl rfl]
  split
  · exact Nat.even_add_one.trans (by rw [Nat.even_add_one, not_not])
  · rfl

/-- A piece is taken just if it is bare, has a quote behind it, and the number of bare pieces
directly in front is even. -/
theorem mem_takenPieces {ps : List Text} {p : Text} :
    p ∈ takenPieces ps
      ↔ ∃ front q back, ps = front ++ p :: q :: back ∧ IsBare p
          ∧ Even (bareRun front).length := by
  -- the front parts shrink with the list, by two pieces where one is taken
  fun_induction takenPieces ps with
  | case1 r q ps hbare ih =>
    rw [List.mem_cons, ih]
    constructor
    · intro h
      rcases h with rfl | ⟨front, q', back, rfl, hp, heven⟩
      · exact ⟨[], q, ps, rfl, hbare, Even.zero⟩
      · exact ⟨r :: q :: front, q', back, rfl, hp,
          (even_length_bareRun_cons_cons hbare q front).mpr heven⟩
    · intro h
      rcases h with ⟨front, q', back, hps, hp, heven⟩
      rcases front with _ | ⟨_, _ | ⟨_, front⟩⟩
      · exact Or.inl (List.cons.inj hps).1.symm
      · rcases List.cons.inj hps with ⟨rfl, -⟩
        simp [bareRun, List.rtakeWhile, hbare] at heven
      · rcases List.cons.inj hps with ⟨rfl, hrest⟩
        rcases List.cons.inj hrest with ⟨rfl, rfl⟩
        exact Or.inr ⟨front, q', back, rfl, hp,
          (even_length_bareRun_cons_cons hbare q front).mp heven⟩
  | case2 r q ps hbare ih =>
    rw [ih]
    constructor
    · intro h
      rcases h with ⟨front, q', back, hps, hp, heven⟩
      refine ⟨r :: front, q', back, congrArg (r :: ·) hps, hp, ?_⟩
      rwa [length_bareRun_cons_of_not hbare]
    · intro h
      rcases h with ⟨front, q', back, hps, hp, heven⟩
      cases front with
      | nil =>
        rcases List.cons.inj hps with ⟨rfl, -⟩
        exact absurd hp hbare
      | cons r' front =>
        rcases List.cons.inj hps with ⟨rfl, hrest⟩
        rw [length_bareRun_cons_of_not hbare] at heven
        exact ⟨front, q', back, hrest, hp, heven⟩
  | case3 ps hshort =>
    refine iff_of_false List.not_mem_nil ?_
    rintro ⟨front, q, back, rfl, -⟩
    cases front with
    | nil => exact hshort _ _ _ rfl
    | cons r front =>
      cases front with
      | nil => exact hshort _ _ _ rfl
      | cons r' front => exact hshort _ _ _ rfl

/-! ## 3. Lines of text and literals in turn -/

/-- A line of plain text and double-quoted literals in turn. -/
structure QuotedLine where
  start : Text
  /-- Each literal with the text behind it. -/
  quoted : List (Text × Text)
  quoteFree_start : QuoteFree start
  quoteFree_quoted : ∀ q ∈ quoted, QuoteFree q.1 ∧ QuoteFree q.2

namespace QuotedLine

def text (l : QuotedLine) : Text :=
  l.start ++ l.quoted.flatMap fun q => '"' :: (q.1 ++ '"' :: q.2)

/-- What stands behind each quote, up to the next one. -/
def pieces (l : QuotedLine) : List Text := l.quoted.flatMap fun q => [q.1, q.2]

theorem bareLiterals_text (l : QuotedLine) : bareLiterals l.text = takenPieces l.pieces := by
  have hfree : ∀ p ∈ l.pieces, QuoteFree p := by
    intro p hp
    rcases List.mem_flatMap.mp hp with ⟨q, hq, hmem⟩
    have hq := l.quoteFree_quoted q hq
    rcases List.mem_pair.mp hmem with rfl | rfl
    · exact hq.1
    · exact hq.2
  have hflat : (l.quoted.flatMap fun q => '"' :: (q.1 ++ '"' :: q.2))
      = l.pieces.flatMap fun p => '"' :: p := by
    rw [pieces, List.flatMap_assoc]
    simp
  rw [text, bareLiterals_append l.quoteFree_start, hflat, bareLiterals_flatMap hfree]

end QuotedLine

/-! ## 4. What is found on such a line -/

/-- A literal that should be told wherever it stands. -/
structure IsRandomLiteral (limits : SecretLimits) (literal : Text) : Prop where
  not_isBlank : ∀ c ∈ literal, ¬ isBlank c
  length_le : limits.minLiteralLength ≤ literal.length
  not_isWebAddress : ¬ isWebAddress literal
  exceeds : exceeds (entropy literal) 85

theorem isRandomLiteral_iff {limits : SecretLimits} {literal : Text} :
    IsRandomLiteral limits literal ↔ IsBare literal ∧ (randomLiteral? limits literal).isSome := by
  have hsome : (randomLiteral? limits literal).isSome
      ↔ limits.minLiteralLength ≤ literal.length ∧ ¬ isWebAddress literal
          ∧ exceeds (entropy literal) 85 := by
    unfold randomLiteral? randomLiteralBy?
    split
    next h => simpa [and_assoc] using h
    next h => simpa [and_assoc] using h
  rw [hsome]
  constructor
  · intro h
    refine ⟨⟨?_, h.not_isBlank⟩, h.length_le, h.not_isWebAddress, h.exceeds⟩
    rintro rfl
    exact absurd h.exceeds (by decide)
  · intro h
    exact ⟨h.1.2, h.2.1, h.2.2.1, h.2.2.2⟩

/-- Something is reported for the line with this index. -/
def HasFinding (limits : SecretLimits) (file content : Text) (i : Nat) : Prop :=
  ∃ s ∈ sourceSecrets limits file content, s.line = i + 1

theorem hasFinding_iff {limits : SecretLimits} {file content : Text} {i : Nat} {line : Text}
    (hchecked : IsChecked content i line) :
    HasFinding limits file content i ↔ ∃ severity cause, Suspects limits line severity cause := by
  have hline : (∃ s ∈ sourceSecrets limits file content, s.line = i + 1 ∧ True)
      ↔ ∃ line' severity cause, IsChecked content i line' ∧ Suspects limits line' severity cause
          ∧ True :=
    exists_mem_sourceSecrets_on_line (p := fun _ => True)
  simp only [and_true] at hline
  rw [HasFinding, hline]
  constructor
  · intro h
    rcases h with ⟨line', severity, cause, hchecked', hsuspects⟩
    rcases Option.some.inj (hchecked.1.symm.trans hchecked'.1) with rfl
    exact ⟨severity, cause, hsuspects⟩
  · intro h
    rcases h with ⟨severity, cause, hsuspects⟩
    exact ⟨line, severity, cause, hchecked, hsuspects⟩

/-- Something is found on a line that tells first, and on one that has a random literal among those
the search takes. -/
theorem exists_suspects_iff {limits : SecretLimits} {line : Text} :
    (∃ severity cause, Suspects limits line severity cause)
      ↔ TellsFirst limits line
        ∨ ∃ literal ∈ bareLiterals line, (randomLiteral? limits literal).isSome := by
  constructor
  · intro h
    rcases h with ⟨severity, cause, hsuspects⟩
    cases hsuspects with
    | credential hformat =>
      exact Or.inl (Or.inl (credentialIn?_isSome.mp (Option.isSome_of_eq_some hformat)))
    | assignment _ a hfirst htells =>
      exact Or.inl (Or.inr ⟨a, hfirst,
        sensitiveAssignment?_isSome.mp (Option.isSome_of_eq_some htells)⟩)
    | literal _ _ hrandom =>
      exact Or.inr (List.findSome?_isSome_iff.mp (Option.isSome_of_eq_some hrandom))
  · intro h
    by_cases htells : TellsFirst limits line
    · rcases htells.exists_suspects with ⟨severity, cause, hsuspects, -⟩
      exact ⟨severity, cause, hsuspects⟩
    · have hsome := List.findSome?_isSome_iff.mpr (h.resolve_left htells)
      rcases Option.isSome_iff_exists.mp hsome with ⟨e, he⟩
      exact ⟨.low, .randomLiteral e, .literal (fun hcredential => htells (Or.inl hcredential))
        (fun a hfirst hleak => htells (Or.inr ⟨a, hfirst, hleak⟩)) he⟩

/-- A random piece of the line that the search takes: the number of bare pieces directly in front
is even. -/
def QuotedLine.TakesRandom (limits : SecretLimits) (l : QuotedLine) : Prop :=
  ∃ front p q back, l.pieces = front ++ p :: q :: back ∧ IsRandomLiteral limits p
    ∧ Even (bareRun front).length

theorem QuotedLine.takesRandom_iff {limits : SecretLimits} {l : QuotedLine} :
    l.TakesRandom limits
      ↔ ∃ literal ∈ bareLiterals l.text, (randomLiteral? limits literal).isSome := by
  simp only [l.bareLiterals_text, mem_takenPieces, TakesRandom, isRandomLiteral_iff]
  constructor
  · intro h
    rcases h with ⟨front, p, q, back, hpieces, ⟨hbare, hrandom⟩, heven⟩
    exact ⟨p, ⟨front, q, back, hpieces, hbare, heven⟩, hrandom⟩
  · intro h
    rcases h with ⟨p, ⟨front, q, back, hpieces, hbare, heven⟩, hrandom⟩
    exact ⟨front, p, q, back, hpieces, ⟨hbare, hrandom⟩, heven⟩

/-- With no bare piece between two literals, the search takes all that are bare. -/
theorem QuotedLine.takesRandom_of_spaced {limits : SecretLimits} {l : QuotedLine}
    (hspaced : ∀ q ∈ l.quoted.dropLast, ¬ IsBare q.2)
    (h : ∃ q ∈ l.quoted, IsRandomLiteral limits q.1) : l.TakesRandom limits := by
  rcases h with ⟨q, hq, hrandom⟩
  rcases List.append_of_mem hq with ⟨front, back, hsplit⟩
  refine ⟨front.flatMap fun q => [q.1, q.2], q.1, q.2, back.flatMap fun q => [q.1, q.2], ?_,
    hrandom, ?_⟩
  · rw [pieces, hsplit, List.flatMap_append, List.flatMap_cons]
    rfl
  · rcases List.eq_nil_or_concat' front with rfl | ⟨front, r, rfl⟩
    · exact Even.zero
    · have hr : ¬ IsBare r.2 := hspaced r (by rw [hsplit, List.dropLast_append_cons]; simp)
      have hlast : ((front ++ [r]).flatMap fun q => [q.1, q.2])
          = (front.flatMap fun q => [q.1, q.2]) ++ [r.1] ++ [r.2] := by simp
      rw [hlast, bareRun_concat_of_not hr]
      exact Even.zero

/-- Something is found on a line of text and literals just if it tells first, or the search takes
one of its pieces that is random.  So it is found on each line with a random literal just if one of
the two is so then, and always where there is no bare piece between two literals. -/
theorem hasFinding_quotedLine_iff (limits : SecretLimits) (file : Text) {content : Text} {i : Nat}
    {l : QuotedLine} (hchecked : IsChecked content i l.text) :
    (HasFinding limits file content i ↔ TellsFirst limits l.text ∨ l.TakesRandom limits)
      ∧ (((∃ q ∈ l.quoted, IsRandomLiteral limits q.1) → HasFinding limits file content i)
          ↔ ((∃ q ∈ l.quoted, IsRandomLiteral limits q.1) →
              TellsFirst limits l.text ∨ l.TakesRandom limits))
      ∧ ((∀ q ∈ l.quoted.dropLast, ¬ IsBare q.2) → (∃ q ∈ l.quoted, IsRandomLiteral limits q.1) →
          HasFinding limits file content i) := by
  have hfound : HasFinding limits file content i
      ↔ TellsFirst limits l.text ∨ l.TakesRandom limits := by
    rw [hasFinding_iff hchecked, exists_suspects_iff, QuotedLine.takesRandom_iff]
  refine ⟨hfound, imp_congr_right fun _ => hfound, fun hspaced h => ?_⟩
  exact hfound.mpr (Or.inr (QuotedLine.takesRandom_of_spaced hspaced h))

/-- A call with two literals, the second one random, and the given text between them. -/
def twoLiterals (between : Text) (hbetween : QuoteFree between) : QuotedLine where
  start := "log(".toList
  quoted := [("two words".toList, between),
    ("abcdefghijklmnopqrstuvwxyz0123456789ABCD".toList, ")".toList)]
  quoteFree_start := by decide
  quoteFree_quoted := List.forall_mem_cons.mpr
    ⟨⟨show QuoteFree "two words".toList by decide, hbetween⟩,
      List.forall_mem_singleton.mpr ⟨by decide, by decide⟩⟩

theorem hasFinding_blankBetween :
    let l := twoLiterals ", ".toList (by decide)
    IsChecked l.text 0 l.text ∧ (∀ q ∈ l.quoted.dropLast, ¬ IsBare q.2)
      ∧ (∃ q ∈ l.quoted, IsRandomLiteral {} q.1) ∧ HasFinding {} "a.ts".toList l.text 0 := by
  intro l
  have hchecked : IsChecked l.text 0 l.text := ⟨by decide +kernel, by decide +kernel⟩
  have hspaced : ∀ q ∈ l.quoted.dropLast, ¬ IsBare q.2 := by decide
  have hrandom : ∃ q ∈ l.quoted, IsRandomLiteral {} q.1 :=
    ⟨_, List.mem_cons_of_mem _ List.mem_cons_self,
      isRandomLiteral_iff.mpr ⟨by decide, by decide +kernel⟩⟩
  exact ⟨hchecked, hspaced, hrandom,
    (hasFinding_quotedLine_iff {} "a.ts".toList hchecked).2.2 hspaced hrandom⟩

/-- The comma between the literals is taken for a literal of its own, with the quotes around it. -/
theorem not_hasFinding_commaBetween :
    let l := twoLiterals ",".toList (by decide)
    IsChecked l.text 0 l.text ∧ (∃ q ∈ l.quoted, IsRandomLiteral {} q.1)
      ∧ ¬ HasFinding {} "a.ts".toList l.text 0 := by
  intro l
  refine ⟨⟨by decide +kernel, by decide +kernel⟩, ?_, ?_⟩
  · exact ⟨_, List.mem_cons_of_mem _ List.mem_cons_self,
      isRandomLiteral_iff.mpr ⟨by decide, by decide +kernel⟩⟩
  · have hnone : sourceSecrets {} "a.ts".toList l.text = [] := by decide +kernel
    intro h
    rcases h with ⟨s, hs, -⟩
    rw [hnone] at hs
    cases hs

end EnvAudit
