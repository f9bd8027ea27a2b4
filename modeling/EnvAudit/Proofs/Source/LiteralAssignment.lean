import EnvAudit.Proofs.Env.Assignment
import EnvAudit.Proofs.Source.Reference
import EnvAudit.Proofs.Text.Places
import EnvAudit.Source.Secret

/-!
# Names that are assigned a quoted literal

`LiteralAssignment` says how a line assigns a quoted literal to a name, wherever on the line this
stands.  The reader of assignments takes exactly these (`reads_literalAssignment?`), and the search
for one returns the first on the line (`firstMatch?_literalAssignment?`).
-/

namespace EnvAudit

/-! ## 1. How an assignment is written -/

/-- From a name to the literal that it is assigned: perhaps a quote that closes the name, a colon or
an equals sign, the quote that opens the literal, and white space on both sides of the sign. -/
def IsJoint (joint : Text) : Prop :=
  ∃ closing gap sign gap' quote, joint = closing ++ (gap ++ sign :: (gap' ++ [quote]))
    ∧ (closing = [] ∨ closing = ['"'] ∨ closing = ['\'']) ∧ (∀ c ∈ gap, isBlank c)
    ∧ (sign = ':' ∨ sign = '=') ∧ (∀ c ∈ gap', isBlank c) ∧ isQuote quote

/-- A literal between two quotes: not empty, and without quotes. -/
def IsLiteral (literal : Text) : Prop := literal ≠ [] ∧ ∀ c ∈ literal, !isQuote c

/-- An assignment of a quoted literal on a line: the parts that the line falls into. -/
structure LiteralAssignment (line : Text) where
  before : Text
  name : Text
  joint : Text
  literal : Text
  after : Text
  line_eq : line = before ++ (name ++ (joint ++ (literal ++ after)))
  opensWord : Text.opensWord before.getLast?
  isPlainName : IsPlainName name
  isJoint : IsJoint joint
  isLiteral : IsLiteral literal
  closes : ∃ c ∈ after.head?, isQuote c

namespace LiteralAssignment

variable {line : Text}

/-- How many characters of the line stand before the literal. -/
def start (a : LiteralAssignment line) : Nat :=
  a.before.length + a.name.length + a.joint.length

/-- No other assignment on the line begins before this one. -/
def IsFirst (a : LiteralAssignment line) : Prop :=
  ∀ b : LiteralAssignment line, a.before.length ≤ b.before.length

end LiteralAssignment

/-! ## 2. The reader, part by part -/

theorem afterOne?_eq_some {p : Char → Bool} {s rest : Text} :
    Text.afterOne? p s = some rest ↔ ∃ c, p c ∧ s = c :: rest := by
  cases s with
  | nil => simp [Text.afterOne?]
  | cons c s =>
    by_cases h : p c
    · simp [Text.afterOne?, h]
    · simp [Text.afterOne?, h]

/-- What is left without a quote that closes a name. -/
theorem exists_closing {s rest : Text}
    (h : (Text.afterOne? (fun c => c == '"' || c == '\'') s).getD s = rest) :
    ∃ closing, s = closing ++ rest ∧ (closing = [] ∨ closing = ['"'] ∨ closing = ['\'']) := by
  cases hquote : Text.afterOne? (fun c => c == '"' || c == '\'') s with
  | none =>
    rw [hquote] at h
    exact ⟨[], h, Or.inl rfl⟩
  | some t =>
    rw [hquote] at h
    rcases afterOne?_eq_some.mp hquote with ⟨c, hc, rfl⟩
    rw [Bool.or_eq_true, beq_iff_eq, beq_iff_eq] at hc
    refine ⟨[c], congrArg (c :: ·) h, Or.inr ?_⟩
    exact hc.imp (congrArg ([·])) (congrArg ([·]))

theorem getD_afterOne?_closing {closing s : Text}
    (hclosing : closing = [] ∨ closing = ['"'] ∨ closing = ['\''])
    (hs : s.head?.all fun c => !(c == '"' || c == '\'')) :
    (Text.afterOne? (fun c => c == '"' || c == '\'') (closing ++ s)).getD (closing ++ s) = s := by
  rcases hclosing with rfl | rfl | rfl
  · cases s with
    | nil => rfl
    | cons c s =>
      have hc : ¬ (c == '"' || c == '\'') := by simpa using hs
      rw [List.nil_append, Text.afterOne?, if_neg hc]
      rfl
  · rfl
  · rfl

/-- What follows the joint at the front. -/
def afterJoint? (s : Text) : Option Text := do
  let s := ((Text.afterOne? (fun c => c == '"' || c == '\'') s).getD s).dropWhile isBlank
  let s ← Text.afterOne? (fun c => c == ':' || c == '=') s
  Text.afterOne? isQuote (s.dropWhile isBlank)

theorem not_isBlank_of_isQuote {c : Char} (h : isQuote c) : isBlank c = false := by
  simp only [isQuote, Bool.or_eq_true, beq_iff_eq] at h
  rcases h with (rfl | rfl) | rfl <;> decide

/-- No quote closes the name where a blank or the sign stands. -/
theorem head?_not_closing {gap : Text} {sign : Char} (hgap : ∀ c ∈ gap, isBlank c)
    (hsign : sign = ':' ∨ sign = '=') (s : Text) :
    (gap ++ sign :: s).head?.all fun c => !(c == '"' || c == '\'') := by
  cases gap with
  | nil => rcases hsign with rfl | rfl <;> rfl
  | cons c gap =>
    have hblank := hgap c List.mem_cons_self
    have hmark : (c == '"' || c == '\'') = false := by
      apply Bool.eq_false_iff.mpr
      intro hquote
      rw [not_isBlank_of_isQuote (by simp [isQuote, hquote])] at hblank
      cases hblank
    simpa using hmark

theorem afterJoint?_eq_some {s rest : Text} :
    afterJoint? s = some rest ↔ ∃ joint, IsJoint joint ∧ s = joint ++ rest := by
  unfold afterJoint?
  simp only [Option.bind_eq_bind, Option.bind_eq_some_iff, afterOne?_eq_some]
  constructor
  · intro h
    rcases h with ⟨t, ⟨sign, hsign, ht⟩, quote, hquote, hrest⟩
    generalize hopen : (Text.afterOne? (fun c => c == '"' || c == '\'') s).getD s = u at ht
    rcases exists_closing hopen with ⟨closing, rfl, hclosing⟩
    rcases exists_of_dropWhile_eq ht with ⟨gap, rfl, hblank⟩
    rcases exists_of_dropWhile_eq hrest with ⟨gap', rfl, hblank'⟩
    rw [Bool.or_eq_true, beq_iff_eq, beq_iff_eq] at hsign
    refine ⟨_, ⟨closing, gap, sign, gap', quote, rfl, hclosing, hblank, hsign, hblank', hquote⟩, ?_⟩
    simp only [List.append_assoc, List.cons_append, List.nil_append]
  · intro h
    rcases h with
      ⟨_, ⟨closing, gap, sign, gap', quote, rfl, hclosing, hblank, hsign, hblank', hquote⟩, rfl⟩
    have hsign' : isBlank sign = false := by
      rcases hsign with rfl | rfl <;> decide
    have hhead := head?_not_closing hblank hsign (gap' ++ quote :: rest)
    simp only [List.append_assoc, List.cons_append, List.nil_append]
    refine ⟨gap' ++ quote :: rest, ⟨sign, ?_, ?_⟩, quote, hquote, ?_⟩
    · rwa [Bool.or_eq_true, beq_iff_eq, beq_iff_eq]
    · rw [getD_afterOne?_closing hclosing hhead, dropWhile_append_cons hblank hsign']
    · exact dropWhile_append_cons hblank' (not_isBlank_of_isQuote hquote) rest

/-- The literal at the front, if a quote closes it. -/
def closedLiteral? (s : Text) : Option Text :=
  let literal := s.takeWhile fun c => !isQuote c
  if !literal.isEmpty && !(s.dropWhile fun c => !isQuote c).isEmpty then some literal else none

theorem closedLiteral?_eq_some {s literal : Text} :
    closedLiteral? s = some literal
      ↔ IsLiteral literal ∧ ∃ after, s = literal ++ after ∧ ∃ c ∈ after.head?, isQuote c := by
  have hspan (after : Text) :
      s.takeWhile (!isQuote ·) = literal ∧ s.dropWhile (!isQuote ·) = after
        ↔ s = literal ++ after ∧ (∀ c ∈ literal, !isQuote c) ∧ after.head?.all (!!isQuote ·) :=
    span_eq_iff
  simp only [closedLiteral?, Bool.not_not] at hspan ⊢
  constructor
  · intro h
    split at h
    next hne =>
      rcases (hspan _).mp ⟨Option.some.inj h, rfl⟩ with ⟨hs, hplain, hclose⟩
      rw [Bool.and_eq_true] at hne
      cases hafter : s.dropWhile (!isQuote ·) with
      | nil => simp [hafter] at hne
      | cons c after =>
        rw [hafter] at hs hclose
        refine ⟨⟨?_, hplain⟩, _, hs, c, rfl, by simpa using hclose⟩
        rw [← Option.some.inj h]
        simpa using hne.1
    next => cases h
  · intro h
    rcases h with ⟨⟨hne, hplain⟩, after, hs, c, hc, hquote⟩
    cases after with
    | nil => cases hc
    | cons c' after =>
      cases hc
      rcases (hspan (c :: after)).mpr ⟨hs, hplain, by simpa using hquote⟩ with ⟨htake, hdrop⟩
      rw [htake, hdrop, if_pos]
      simpa using hne

theorem literalAssignment?_eq (before : Option Char) (s : Text) :
    literalAssignment? before s
      = if Text.opensWord before && ((s.takeWhile isNameChar).head?.map isNameStart).getD false then
          ((afterJoint? (s.dropWhile isNameChar)).bind closedLiteral?).map
            fun literal => (s.takeWhile isNameChar, literal)
        else none := by
  unfold literalAssignment? afterJoint? closedLiteral? guard
  simp only [Option.bind_eq_bind, Option.pure_def]
  split
  · simp only [Option.bind_some, Option.bind_assoc, Option.map_bind, Function.comp_def]
    congr 1
    funext afterSign
    congr 1
    funext afterQuote
    split <;> rfl
  · rfl

theorem isNameStart_of_isNameChar {c : Char} (h : isNameChar c) :
    isNameStart c = !isAsciiDigit c := by
  rw [isNameChar, Bool.or_eq_true, Bool.or_eq_true] at h
  unfold isNameStart
  rcases h with (hletter | hdigit) | hunderscore
  · have hno : isAsciiDigit c = false := by
      rw [Bool.eq_false_iff, Ne, isAsciiDigit_iff]
      rw [isAsciiLetter, Bool.or_eq_true, isAsciiUpper_iff, isAsciiLower_iff] at hletter
      omega
    rw [hletter, hno]
    rfl
  · have hno : (isAsciiLetter c || c == '_') = false := by
      rw [isAsciiDigit_iff] at hdigit
      rw [Bool.eq_false_iff, Ne, Bool.or_eq_true, isAsciiLetter, Bool.or_eq_true,
        isAsciiUpper_iff, isAsciiLower_iff, beq_iff_eq]
      rintro ((hupper | hlower) | rfl)
      · omega
      · omega
      · revert hdigit
        decide
    rw [hno, hdigit]
    rfl
  · rw [beq_iff_eq.mp hunderscore]
    decide

theorem isPlainName_iff {name : Text} (h : ∀ c ∈ name, isNameChar c) :
    (name.head?.map isNameStart).getD false ↔ IsPlainName name := by
  cases name with
  | nil => simp [IsPlainName]
  | cons c name =>
    rw [List.head?_cons, Option.map_some, Option.getD_some,
      isNameStart_of_isNameChar (h c List.mem_cons_self)]
    constructor
    · intro hc
      exact ⟨h, c, rfl, hc⟩
    · intro hname
      rcases hname.2 with ⟨_, hd, hc⟩
      cases hd
      exact hc

/-- A joint begins where a name ends. -/
theorem IsJoint.head?_not_isNameChar {joint : Text} (h : IsJoint joint) (s : Text) :
    (joint ++ s).head?.all (!isNameChar ·) := by
  have hblank {c : Char} (hc : isBlank c) : isNameChar c = false := by
    rw [Bool.eq_false_iff]
    intro hname
    rw [not_isBlank_of_isNameChar hname] at hc
    cases hc
  rcases h with ⟨closing, gap, sign, gap', quote, rfl, hclosing, hgap, hsign, -, -⟩
  rcases hclosing with rfl | rfl | rfl
  · cases gap with
    | nil => rcases hsign with rfl | rfl <;> rfl
    | cons c gap => simpa using hblank (hgap c List.mem_cons_self)
  · rfl
  · rfl

/-- The reader of assignments takes just what is written as one. -/
theorem literalAssignment?_eq_some {before : Option Char} {s name literal : Text} :
    literalAssignment? before s = some (name, literal)
      ↔ ∃ joint after, s = name ++ (joint ++ (literal ++ after)) ∧ Text.opensWord before
          ∧ IsPlainName name ∧ IsJoint joint ∧ IsLiteral literal
          ∧ ∃ c ∈ after.head?, isQuote c := by
  rw [literalAssignment?_eq]
  constructor
  · intro h
    split at h
    next hopen =>
      rw [Bool.and_eq_true] at hopen
      simp only [Option.map_eq_some_iff, Option.bind_eq_some_iff, afterJoint?_eq_some,
        closedLiteral?_eq_some, Prod.mk.injEq] at h
      rcases h with ⟨_, ⟨_, ⟨joint, hjoint, hs⟩, hliteral, after, rfl, hclose⟩, hname, rfl⟩
      rcases span_eq_iff.mp ⟨hname, hs⟩ with ⟨rfl, hchars, -⟩
      rw [hname] at hopen
      exact ⟨joint, after, rfl, hopen.1, (isPlainName_iff hchars).mp hopen.2, hjoint, hliteral,
        hclose⟩
    next => cases h
  · intro h
    rcases h with ⟨joint, after, rfl, hopen, hname, hjoint, hliteral, hclose⟩
    have hhead := hjoint.head?_not_isNameChar (literal ++ after)
    rcases span_eq_iff.mpr ⟨rfl, hname.1, hhead⟩ with ⟨htake, hdrop⟩
    have hstart := (isPlainName_iff hname.1).mpr hname
    rw [htake, hdrop, hopen, hstart, Bool.and_self, if_pos rfl,
      afterJoint?_eq_some.mpr ⟨joint, hjoint, rfl⟩]
    show (closedLiteral? (literal ++ after)).map _ = _
    rw [closedLiteral?_eq_some.mpr ⟨hliteral, after, rfl, hclose⟩]
    rfl

/-! ## 3. Assignments on a line -/

/-- What stands before the literal. -/
theorem LiteralAssignment.exists_front {line : Text} (a : LiteralAssignment line) :
    ∃ front, line = front ++ (a.literal ++ a.after) ∧ front.length = a.start := by
  refine ⟨a.before ++ (a.name ++ a.joint), ?_, ?_⟩
  · simpa only [List.append_assoc] using a.line_eq
  · rw [List.length_append, List.length_append, ← Nat.add_assoc]
    rfl

theorem reads_literalAssignment? {line before name literal : Text} :
    Text.Reads literalAssignment? line before (name, literal)
      ↔ ∃ a : LiteralAssignment line, a.before = before ∧ a.name = name ∧ a.literal = literal := by
  constructor
  · intro h
    rcases h with ⟨_, hline, hread⟩
    rcases literalAssignment?_eq_some.mp hread with
      ⟨joint, after, rfl, hopen, hname, hjoint, hliteral, hclose⟩
    exact ⟨⟨before, name, joint, literal, after, hline, hopen, hname, hjoint, hliteral, hclose⟩,
      rfl, rfl, rfl⟩
  · intro h
    rcases h with ⟨a, rfl, rfl, rfl⟩
    exact ⟨_, a.line_eq, literalAssignment?_eq_some.mpr
      ⟨a.joint, a.after, rfl, a.opensWord, a.isPlainName, a.isJoint, a.isLiteral, a.closes⟩⟩

/-- What holds of whatever is read at any place of the line holds of all its assignments. -/
theorem LiteralAssignment.all_of_forall_place {line : Text} {p : Text × Text → Bool}
    (h : ∀ n < line.length + 1, (literalAssignment? (line.take n).getLast? (line.drop n)).all p)
    (a : LiteralAssignment line) : p (a.name, a.literal) := by
  have hreads : Text.Reads literalAssignment? line a.before (a.name, a.literal) :=
    reads_literalAssignment?.mpr ⟨a, rfl, rfl, rfl⟩
  rcases hreads.read_take_drop with ⟨hlength, hread⟩
  have hplace := h a.before.length (Nat.lt_succ_of_le hlength)
  rwa [hread] at hplace

/-- The search for an assignment returns the first one on the line. -/
theorem firstMatch?_literalAssignment? {line name literal : Text} :
    Text.firstMatch? literalAssignment? line = some (name, literal)
      ↔ ∃ a : LiteralAssignment line, a.IsFirst ∧ a.name = name ∧ a.literal = literal := by
  rw [Text.firstMatch?_eq_some]
  constructor
  · intro h
    rcases h with ⟨before, hread, hfirst⟩
    rcases reads_literalAssignment?.mp hread with ⟨a, rfl, rfl, rfl⟩
    refine ⟨a, fun b => ?_, rfl, rfl⟩
    exact hfirst b.before (b.name, b.literal) (reads_literalAssignment?.mpr ⟨b, rfl, rfl, rfl⟩)
  · intro h
    rcases h with ⟨a, hfirst, rfl, rfl⟩
    refine ⟨a.before, reads_literalAssignment?.mpr ⟨a, rfl, rfl, rfl⟩, ?_⟩
    intro front found hread
    rcases reads_literalAssignment?.mp hread with ⟨b, rfl, _⟩
    exact hfirst b

end EnvAudit
