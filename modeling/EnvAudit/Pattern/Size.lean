import EnvAudit.Pattern.Basic

/-!
# Size of patterns

A pattern is refused if the automaton for it would be too large: counted repetition copies what it
repeats, so a short pattern may need a lot of memory.  The automaton reads UTF-8, and a state takes
32 bytes; a set of characters becomes a tree of byte ranges.
-/

namespace EnvAudit

/-! ## Sets of characters as byte ranges -/

/-- The first code point after which a range has to be cut: where the length of the encoding
changes, around the surrogates, and so that all but the leading bytes run through full blocks. -/
def firstCut? (first last : Nat) : Option Nat :=
  match [0x7F, 0x7FF, 0xD7FF, 0xDFFF, 0xFFFF].find? fun m => first ≤ m && m < last with
  | some m => some m
  | none =>
    if last ≤ 0x7F then none
    else [64, Nat.pow 64 2, Nat.pow 64 3].findSome? fun block =>
      if first / block = last / block then none
      else if first % block ≠ 0 then some (first - first % block + block - 1)
      else if last % block ≠ block - 1 then some (last - last % block - 1)
      else none

/-- The range cut into ranges that one sequence of byte ranges covers each. -/
def cutRange : Nat → Nat → Nat → List (Nat × Nat)
  | 0, _, _ => []
  | fuel + 1, first, last =>
    match firstCut? first last with
    | none => if 0xD800 ≤ first ∧ last ≤ 0xDFFF then [] else [(first, last)]
    | some cut => cutRange fuel first cut ++ cutRange fuel (cut + 1) last

/-- The bytes of a code point in UTF-8. -/
def utf8Bytes (n : Nat) : List Nat :=
  if n < 0x80 then [n]
  else if n < 0x800 then [0xC0 + n / 64, 0x80 + n % 64]
  else if n < 0x10000 then [0xE0 + n / Nat.pow 64 2, 0x80 + n / 64 % 64, 0x80 + n % 64]
  else [0xF0 + n / Nat.pow 64 3, 0x80 + n / Nat.pow 64 2 % 64, 0x80 + n / 64 % 64, 0x80 + n % 64]

/-- The sequences of byte ranges that make up the set. -/
def byteSequences (set : CharSet) : List (List (Nat × Nat)) :=
  (set.ranges.flatMap fun r => cutRange 64 r.1 r.2).map fun r => (utf8Bytes r.1).zip (utf8Bytes r.2)

/-- How many elements two lists begin with in common. -/
def commonLength : List (Nat × Nat) → List (Nat × Nat) → Nat
  | a :: as, b :: bs => if a = b then commonLength as bs + 1 else 0
  | _, _ => 0

/-- The nodes of the tree of the sequences, which are in order: each one adds what it does not
share with the one before. -/
def treeNodes (before : List (Nat × Nat)) : List (List (Nat × Nat)) → Nat
  | [] => 0
  | q :: qs => (q.length - commonLength before q) + treeNodes q qs

/-! ## Bytes -/

def stateBytes : Nat := 32

def CharSet.automatonBytes (set : CharSet) : Nat :=
  match set.ranges with
  | [] => stateBytes
  | [(first, last)] =>
    if first = last then stateBytes * (utf8Bytes first).length
    else if last < 128 then 2 * stateBytes
    else treeBytes
  | _ =>
    if set.ranges.all fun r => r.2 < 128 then 2 * stateBytes + 8 * set.ranges.length
    else treeBytes
where
  /-- A start, an end, and the tree between them. -/
  treeBytes : Nat :=
    let sequences := byteSequences set
    stateBytes * (2 + treeNodes [] sequences) + 4 * sequences.length

/-- Whether the pattern takes no characters. -/
def Pattern.isWidthless : Pattern → Bool
  | .empty | .anchor _ => true
  | .chars _ => false
  | .seq p q | .alt p q => p.isWidthless && q.isWidthless
  | .group p => p.isWidthless
  | .repeated p _ most => p.isWidthless || most == some 0

/-- The bytes of the automaton; repeating what takes no characters more than once is the same as
doing so once. -/
def Pattern.automatonBytes : Pattern → Nat
  | .empty | .anchor _ => stateBytes
  | .chars set => set.automatonBytes
  | .seq p q => p.automatonBytes + q.automatonBytes
  | .alt p q => p.automatonBytes + q.automatonBytes + 2 * stateBytes + 8
  | .group p => p.automatonBytes + 2 * stateBytes
  | .repeated p least most =>
    let one := p.automatonBytes
    let least := if p.isWidthless then min least 1 else least
    match most with
    | none => max least 1 * one + stateBytes + 8
    | some most =>
      let most := if p.isWidthless then min most 1 else most
      least * one + (most - least) * (one + stateBytes + 8) + stateBytes

/-- The most bytes that an automaton may take. -/
def maxAutomatonBytes : Nat := 10 * Nat.pow 2 20

end EnvAudit
