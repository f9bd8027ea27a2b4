import EnvAudit.Pattern.Class
import EnvAudit.Pattern.Size
import EnvAudit.Unicode.Letters

/-!
# Reading patterns

The written form of patterns: literals, classes, anchors, groups with or without a name, flags,
alternatives, and repetition.  Look-around and references back to a group are refused, and so are
patterns that nest too deep or would need too large an automaton.
-/

namespace EnvAudit

/-! ## Pieces -/

/-- A part of a pattern with its nesting depth; flags alone leave a part that cannot be
repeated. -/
structure Piece where
  pattern : Pattern
  depth : Nat
  repeatable : Bool

def Piece.ofPattern (p : Pattern) : Piece := ⟨p, 0, true⟩

/-- Several parts under one constructor are a level of their own; one part is itself. -/
def Piece.combine (join : Pattern → Pattern → Pattern) : List Piece → Piece
  | [] => ⟨.empty, 0, false⟩
  | [p] => p
  | p :: ps =>
    ⟨ps.foldl (fun q r => join q r.pattern) p.pattern,
      (ps.foldl (fun d r => max d r.depth) p.depth) + 1, true⟩

def Piece.repeat (p : Piece) (least : Nat) (most : Option Nat) : Piece :=
  ⟨.repeated p.pattern least most, p.depth + 1, true⟩

/-- What an atom stands for as a part of a pattern. -/
def PatternAtom.piece? (f : PatternFlags) : PatternAtom → Option Piece
  | .literal c asByte =>
    if asByte && !f.unicode && 128 ≤ c.toNat then none
    else some (.ofPattern (.chars (f.fold (.range c.toNat c.toNat))))
  | .set members => some (.ofPattern (.chars members))
  | .anchor a => some (.ofPattern (.anchor a))
  | .dot =>
    if !f.unicode then none
    else
      let lineEnds := if f.dotAll then .empty
        else if f.crlf then .ofRanges [(10, 10), (13, 13)] else .range 10 10
      some (.ofPattern (.chars (CharSet.compl lineEnds)))

/-- A group that is being read: the flags in force in it, its finished alternatives, and the parts
of the current one, both last first. -/
structure GroupLevel where
  flags : PatternFlags
  alternatives : List Piece
  parts : List Piece

def GroupLevel.push (l : GroupLevel) (p : Piece) : GroupLevel := { l with parts := p :: l.parts }

def GroupLevel.sequence (l : GroupLevel) : Piece := .combine .seq l.parts.reverse

def GroupLevel.nextAlternative (l : GroupLevel) : GroupLevel :=
  ⟨l.flags, l.sequence :: l.alternatives, []⟩

def GroupLevel.close (l : GroupLevel) : Piece :=
  .combine .alt (l.sequence :: l.alternatives).reverse

/-- Puts the last part under a repetition. -/
def GroupLevel.repeatLast? (l : GroupLevel) (least : Nat) (most : Option Nat) :
    Option GroupLevel :=
  match l.parts with
  | [] => none
  | p :: ps => if p.repeatable then some { l with parts := p.repeat least most :: ps } else none

/-! ## Flags -/

/-- The letters of flags and the dash that negates what follows it. -/
def flagLetters : List Char := "imsUuRx-".toList

/-- Sets one flag; greediness makes no difference to whether a pattern matches. -/
def PatternFlags.set (f : PatternFlags) (letter : Char) (value : Bool) : PatternFlags :=
  if letter = 'i' then { f with ignoreCase := value }
  else if letter = 'm' then { f with multiLine := value }
  else if letter = 's' then { f with dotAll := value }
  else if letter = 'R' then { f with crlf := value }
  else if letter = 'u' then { f with unicode := value }
  else if letter = 'x' then { f with extended := value }
  else f

/-- The flags after a list of letters, each of which occurs once; a dash must not come last. -/
def PatternFlags.setAll? (f : PatternFlags) (letters : Text) : Option PatternFlags :=
  if letters.all flagLetters.contains && (firsts letters).length == letters.length
      && letters.getLast? != some '-' then
    let on := letters.takeWhile (· != '-')
    let off := letters.dropWhile (· != '-')
    some (off.foldl (fun f c => f.set c false) (on.foldl (fun f c => f.set c true) f))
  else none

/-! ## Groups -/

def isGroupNameChar (first : Bool) (c : Char) : Bool :=
  c == '_' || Unicode.letterOfName.contains c
    || (!first && (c == '.' || c == '[' || c == ']' || Unicode.numberOfName.contains c))

/-- A group name up to its closing bracket, and what follows. -/
def readGroupName? (s : Text) : Option (Text × Text) :=
  let name := s.takeWhile (· != '>')
  match name, s.dropWhile (· != '>') with
  | c :: cs, _ :: rest =>
    if isGroupNameChar true c && cs.all (isGroupNameChar false) then some (name, rest) else none
  | _, _ => none

/-- What an opening bracket opens. -/
inductive GroupOpening
  | flags (f : PatternFlags)
  | plain (f : PatternFlags)
  | capture
  | named (name : Text)

/-- The start of a group, from behind its bracket. -/
def readOpening? (f : PatternFlags) (s : Text) : Option (GroupOpening × Text) :=
  let s := f.skip s
  if (Text.afterSome? (["?=", "?!", "?<=", "?<!"].map String.toList) s).isSome then none
  else
    match Text.afterSome? (["?P<", "?<"].map String.toList) s with
    | some rest => (readGroupName? rest).map fun p => (.named p.1, p.2)
    | none =>
      match Text.after? ['?'] s with
      | none => some (.capture, s)
      | some rest => do
        let isEnd := fun c => c == ':' || c == ')'
        let letters := rest.takeWhile fun c => !isEnd c
        let flags ← f.setAll? letters
        match rest.dropWhile fun c => !isEnd c with
        | [] => none
        | ':' :: rest => return (.plain flags, rest)
        | _ :: rest => if letters.isEmpty then none else return (.flags flags, rest)

/-! ## Counts -/

/-- A count that fits 32 bits, with blanks around it allowed. -/
def readCount? (f : PatternFlags) (s : Text) : Option (Nat × Text) :=
  let rec digits (fuel value : Nat) (s : Text) : Nat × Text :=
    match fuel, s with
    | fuel + 1, c :: rest =>
      if isAsciiDigit c then digits fuel (10 * value + (c.toNat - 48)) (f.skip rest)
      else (value, c :: rest)
    | _, s => (value, s)
  let s := s.dropWhile isBlank
  let (value, rest) := digits s.length 0 s
  if (s.head?.map isAsciiDigit).getD false && value < Nat.pow 2 32 then
    some (value, rest.dropWhile isBlank)
  else none

/-- A counted repetition, from behind its opening brace. -/
def readCounts? (f : PatternFlags) (s : Text) : Option (Nat × Option Nat × Text) := do
  let (least, s) ← readCount? f (f.skip s)
  let (most, s) ←
    match s with
    | ',' :: s =>
      match f.skip s with
      | '\x7d' :: s => some (none, '\x7d' :: s)
      | s => (readCount? f s).map fun p => (some p.1, p.2)
    | s => some (some least, s)
  let s ← Text.after? ['\x7d'] s
  guard (most.all (least ≤ ·))
  return (least, most, Text.dropWord ['?'] (f.skip s))

/-! ## Patterns -/

/-- Reads from a place inside the group `level`; the groups around it are given innermost first,
each with whether the group inside it captures, and `names` are the group names so far. -/
def readPieces? :
    Nat → List (Bool × GroupLevel) → GroupLevel → List Text → Text → Option Piece
  | 0, _, _, _, _ => none
  | fuel + 1, outer, level, names, s =>
    let f := level.flags
    let continueWith := fun (level : GroupLevel) (rest : Text) =>
      readPieces? fuel outer level names rest
    let addAtom := fun (atom : PatternAtom) (rest : Text) => do
      continueWith (level.push (← atom.piece? f)) rest
    let repeatWith := fun (least : Nat) (most : Option Nat) (rest : Text) => do
      continueWith (← level.repeatLast? least most) (Text.dropWord ['?'] rest)
    match f.skip s with
    | [] => if outer.isEmpty then some level.close else none
    | c :: rest =>
      if c = '(' then do
        match ← readOpening? f rest with
        | (.flags f, rest) =>
          continueWith ⟨f, level.alternatives, ⟨.empty, 0, false⟩ :: level.parts⟩ rest
        | (.plain f, rest) => readPieces? fuel ((false, level) :: outer) ⟨f, [], []⟩ names rest
        | (.capture, rest) => readPieces? fuel ((true, level) :: outer) ⟨f, [], []⟩ names rest
        | (.named name, rest) =>
          if names.contains name then none
          else readPieces? fuel ((true, level) :: outer) ⟨f, [], []⟩ (name :: names) rest
      else if c = ')' then
        match outer with
        | [] => none
        | (captures, around) :: outer =>
          let inner := level.close
          let pattern := if captures then .group inner.pattern else inner.pattern
          readPieces? fuel outer (around.push ⟨pattern, inner.depth + 1, true⟩) names rest
      else if c = '|' then continueWith level.nextAlternative rest
      else if c = '[' then do
        let (negated, items, rest) ← openClass? f rest
        let (set, depth, rest) ← readClass? f (rest.length + 1) negated none items rest
        continueWith (level.push ⟨.chars set, depth + 1, true⟩) rest
      else if c = '?' then repeatWith 0 (some 1) rest
      else if c = '*' then repeatWith 0 none rest
      else if c = '+' then repeatWith 1 none rest
      else if c = '\x7b' then do
        let (least, most, rest) ← readCounts? f rest
        continueWith (← level.repeatLast? least most) rest
      else if c = '\\' then do
        let (atom, rest) ← readEscape? f rest
        addAtom atom rest
      else if c = '.' then addAtom .dot rest
      else if c = '^' then
        addAtom (.anchor (if !f.multiLine then .textStart
          else if f.crlf then .crlfStart else .lineStart)) rest
      else if c = '$' then
        addAtom (.anchor (if !f.multiLine then .textEnd
          else if f.crlf then .crlfEnd else .lineEnd)) rest
      else addAtom (.literal c false) rest

/-- How deep a pattern may nest. -/
def maxPatternDepth : Nat := 250

/-- The pattern that a text writes, unless it is no pattern or too large a one. -/
def Pattern.parse? (s : Text) : Option Pattern := do
  let piece ← readPieces? (s.length + 1) [] ⟨.start, [], []⟩ [] s
  guard (piece.depth ≤ maxPatternDepth && piece.pattern.automatonBytes ≤ maxAutomatonBytes)
  return piece.pattern

end EnvAudit
