import EnvAudit.Pattern.Basic
import EnvAudit.Text.Scan
import EnvAudit.Unicode.Property

/-!
# Character classes of patterns

Escapes such as `\d` and `\x41`, and classes in brackets, as the sets of characters they stand for
under the flags in force.  A class in brackets may hold further classes, named ASCII classes such
as `[:alpha:]`, and the operations `&&`, `--` and `~~`.  Without the Unicode flag a class stands
for bytes; as a pattern matches text, a class of bytes must hold ASCII only.
-/

namespace EnvAudit

/-! ## Flags -/

/-- The flags in force at a place of a pattern. -/
structure PatternFlags where
  ignoreCase : Bool
  multiLine : Bool
  dotAll : Bool
  crlf : Bool
  unicode : Bool
  extended : Bool

/-- At the start of a pattern only the Unicode flag is set. -/
def PatternFlags.start : PatternFlags := ⟨false, false, false, false, true, false⟩

/-- The text behind white space and comments; `inComment` says that it begins in a comment. -/
def skipExtended (inComment : Bool) : Text → Text
  | [] => []
  | c :: s =>
    if inComment then skipExtended (c != '\n') s
    else if isBlank c then skipExtended false s
    else if c = '#' then skipExtended true s
    else c :: s

/-- White space and comments do not count in extended patterns. -/
def PatternFlags.skip (f : PatternFlags) (s : Text) : Text :=
  if f.extended then skipExtended false s else s

/-! ## Sets under flags -/

def asciiRange (first last : Char) : CharSet := .range first.toNat last.toNat

def asciiDigits : CharSet := asciiRange '0' '9'

def asciiUppers : CharSet := asciiRange 'A' 'Z'

def asciiLowers : CharSet := asciiRange 'a' 'z'

def asciiLetters : CharSet := .union asciiUppers asciiLowers

def asciiAlnums : CharSet := .union asciiDigits asciiLetters

def asciiSpaces : CharSet := .ofRanges [(9, 13), (32, 32)]

def asciiWords : CharSet := .union asciiAlnums (asciiRange '_' '_')

/-- The set with the other case of its ASCII letters. -/
def asciiClosure (set : CharSet) : CharSet :=
  let letters := ((List.range 26).filter fun i => set.hasCode (65 + i) || set.hasCode (97 + i))
  .unions [set, .ofRanges (letters.map fun i => (65 + i, 65 + i)),
    .ofRanges (letters.map fun i => (97 + i, 97 + i))]

/-- The set with all case variants of its members, if case does not count. -/
def PatternFlags.fold (f : PatternFlags) (set : CharSet) : CharSet :=
  if !f.ignoreCase then set else if f.unicode then Unicode.closure set else asciiClosure set

/-- The complement, which for bytes is never ASCII and so never allowed. -/
def PatternFlags.negate? (f : PatternFlags) (negated : Bool) (set : CharSet) : Option CharSet :=
  if !negated then some set else if f.unicode then some set.compl else none

/-! ## Escapes -/

/-- What one element of a pattern stands for. -/
inductive PatternAtom
  /-- A character; `asByte` if it was written with two hexadecimal digits. -/
  | literal (c : Char) (asByte : Bool)
  | set (set : CharSet)
  | anchor (a : Anchor)
  | dot

/-- Characters that mean something in patterns. -/
def isMetaChar (c : Char) : Bool :=
  "\\.+*?()|[]^$#&-~".toList.contains c || c == '\x7b' || c == '\x7d'

/-- Characters that stand for themselves behind a backslash: ASCII without letters, digits and
angle brackets. -/
def isEscapable (c : Char) : Bool :=
  isMetaChar c
    || (c.toNat < 128 && !isAsciiLetter c && !isAsciiDigit c && c != '<' && c != '>')

/-- The value of `n` hexadecimal digits at the front, and what follows. -/
def readHexDigits? (f : PatternFlags) : Nat → Nat → Text → Option (Nat × Text)
  | 0, value, s => some (value, s)
  | _ + 1, _, [] => none
  | n + 1, value, c :: s =>
    (CharSet.hexDigit? c).bind fun d => readHexDigits? f n (16 * value + d) (f.skip s)

/-- The characters up to a closing brace, and what follows it. -/
def readBraced? (f : PatternFlags) : Nat → Text → Option (Text × Text)
  | 0, _ => none
  | fuel + 1, s =>
    match f.skip s with
    | [] => none
    | c :: s =>
      if c = '\x7d' then some ([], s) else (readBraced? f fuel s).map fun p => (c :: p.1, p.2)

/-- The code point that hexadecimal digits write, if there is such a character. -/
def charOfHex? (digits : Text) : Option Char := do
  guard (!digits.isEmpty)
  let ds ← digits.mapM CharSet.hexDigit?
  let n := ds.foldl (fun n d => 16 * n + d) 0
  if n.isValidChar then some (Char.ofNat n) else none

/-- A character given by its code point: `n` digits, or any number of them in braces. -/
def readHexEscape? (f : PatternFlags) (n : Nat) (s : Text) : Option (PatternAtom × Text) :=
  match f.skip s with
  | [] => none
  | c :: rest =>
    if c = '\x7b' then do
      let (digits, rest) ← readBraced? f (rest.length + 1) rest
      return (.literal (← charOfHex? digits) false, f.skip rest)
    else do
      let (value, rest) ← readHexDigits? f n 0 (c :: rest)
      guard (decide value.isValidChar)
      return (.literal (Char.ofNat value) (n == 2), rest)

/-- The name before a separator and the value behind it. -/
def splitName? (separator name : Text) : Option (Text × Text) :=
  match name with
  | [] => none
  | c :: rest =>
    match Text.after? separator name with
    | some value => some ([], value)
    | none => (splitName? separator rest).map fun p => (c :: p.1, p.2)

/-- The set that the words between the braces of a property class name. -/
def propertyOf? (query : Text) : Option CharSet :=
  match splitName? ['!', '='] query <|> splitName? [':'] query <|> splitName? ['='] query with
  | some (property, value) => Unicode.valued? property value
  | none => Unicode.named? query

/-- A property class, from behind its `p` or `P`. -/
def readProperty? (f : PatternFlags) (negated : Bool) (s : Text) : Option (PatternAtom × Text) := do
  let (query, rest) ←
    match f.skip s with
    | [] => none
    | c :: rest =>
      if c = '\x7b' then (readBraced? f (rest.length + 1) rest).map fun p => (propertyOf? p.1, p.2)
      else if c = '\\' then none
      else some (Unicode.named? [c], f.skip rest)
  guard f.unicode
  return (.set (← f.negate? negated (f.fold (← query))), rest)

/-- The digits, blanks or word characters that a class letter stands for. -/
def letterClass? (f : PatternFlags) (c : Char) : Option CharSet :=
  match c.toLower with
  | 'd' => some (if f.unicode then Unicode.decimalNumber else asciiDigits)
  | 's' => some (if f.unicode then Unicode.whiteSpace else asciiSpaces)
  | 'w' => some (if f.unicode then Unicode.word else asciiWords)
  | _ => none

/-- The names of word edges in braces. -/
def wordEdge? (unicode : Bool) (name : Text) : Option Anchor :=
  if name = "start".toList then some (.wordStart unicode)
  else if name = "end".toList then some (.wordEnd unicode)
  else if name = "start-half".toList then some (.wordStartHalf unicode)
  else if name = "end-half".toList then some (.wordEndHalf unicode)
  else none

def isEdgeNameChar (c : Char) : Bool := isAsciiLetter c || c == '-'

/-- The word edge from behind `\b`; braces with a name choose a special one, other braces belong
to a repetition. -/
def readWordEdge? (f : PatternFlags) (s : Text) : Option (PatternAtom × Text) :=
  match s with
  | '\x7b' :: rest =>
    match f.skip rest with
    | [] => none
    | c :: _ =>
      if isEdgeNameChar c then do
        let (name, rest) ← readBraced? f (rest.length + 1) rest
        guard (name.all isEdgeNameChar)
        return (.anchor (← wordEdge? f.unicode name), rest)
      else some (.anchor (.wordEdge f.unicode), s)
  | _ => some (.anchor (.wordEdge f.unicode), s)

/-- The control character that a letter stands for. -/
def controlChar? (c : Char) : Option Char :=
  if c = 'a' then some '\x07' else if c = 'f' then some '\x0c' else if c = 't' then some '\t'
  else if c = 'n' then some '\n' else if c = 'r' then some '\r' else if c = 'v' then some '\x0b'
  else none

/-- An escape, from behind its backslash. -/
def readEscape? (f : PatternFlags) : Text → Option (PatternAtom × Text)
  | [] => none
  | c :: s =>
    if isAsciiDigit c then none
    else if c = 'x' then readHexEscape? f 2 s
    else if c = 'u' then readHexEscape? f 4 s
    else if c = 'U' then readHexEscape? f 8 s
    else if c = 'p' ∨ c = 'P' then readProperty? f (c == 'P') s
    else if isEscapable c then some (.literal c false, s)
    else if c = 'A' then some (.anchor .textStart, s)
    else if c = 'z' then some (.anchor .textEnd, s)
    else if c = 'b' then readWordEdge? f s
    else if c = 'B' then some (.anchor (.notWordEdge f.unicode), s)
    else if c = '<' then some (.anchor (.wordStart f.unicode), s)
    else if c = '>' then some (.anchor (.wordEnd f.unicode), s)
    else
      match letterClass? f c with
      | some set => (f.negate? (isAsciiUpper c) set).map fun set => (.set set, s)
      | none => (controlChar? c).map fun c => (.literal c false, s)

/-! ## Brackets -/

/-- The ASCII class of that name. -/
def asciiClass? (name : Text) : Option CharSet :=
  match String.ofList name with
  | "alnum" => some asciiAlnums
  | "alpha" => some asciiLetters
  | "ascii" => some (.range 0 0x7F)
  | "blank" => some (.ofRanges [(9, 9), (32, 32)])
  | "cntrl" => some (.ofRanges [(0, 0x1F), (0x7F, 0x7F)])
  | "digit" => some asciiDigits
  | "graph" => some (asciiRange '!' '~')
  | "lower" => some asciiLowers
  | "print" => some (asciiRange ' ' '~')
  | "punct" => some (.ofRanges [(0x21, 0x2F), (0x3A, 0x40), (0x5B, 0x60), (0x7B, 0x7E)])
  | "space" => some asciiSpaces
  | "upper" => some asciiUppers
  | "word" => some asciiWords
  | "xdigit" => some (.unions [asciiDigits, asciiRange 'A' 'F', asciiRange 'a' 'f'])
  | _ => none

/-- A named ASCII class from behind its bracket: whether it is negated, its set, and what
follows. -/
def readAsciiClass? (s : Text) : Option (Bool × CharSet × Text) := do
  let s ← Text.after? [':'] s
  let negated := s.head? == some '^'
  let s := if negated then s.drop 1 else s
  let set ← asciiClass? (s.takeWhile (· != ':'))
  let rest ← Text.after? [':', ']'] (s.dropWhile (· != ':'))
  return (negated, set, rest)

/-- What a union in brackets holds so far: the set, how many items, and how deep they nest. -/
structure ClassItems where
  set : CharSet
  count : Nat
  depth : Nat

def ClassItems.none : ClassItems := ⟨.empty, 0, 0⟩

def ClassItems.add (items : ClassItems) (set : CharSet) (depth : Nat) : ClassItems :=
  ⟨.union items.set set, items.count + 1, max items.depth depth⟩

/-- A union of several items is a level of its own. -/
def ClassItems.level (items : ClassItems) : Nat :=
  if 2 ≤ items.count then items.depth + 1 else items.depth

inductive ClassOp
  | intersection
  | difference
  | symmetricDifference

def ClassOp.apply : ClassOp → CharSet → CharSet → CharSet
  | .intersection => .inter
  | .difference => .diff
  | .symmetricDifference => .symmDiff

/-- The left side of an operation that waits for its right side. -/
structure PendingOp where
  op : ClassOp
  left : CharSet
  depth : Nat

/-- What was read so far, with the pending operation applied, and how deep it nests. -/
def closeOp (f : PatternFlags) (pending : Option PendingOp) (items : ClassItems) : CharSet × Nat :=
  match pending with
  | none => (items.set, items.level)
  | some p => (p.op.apply (f.fold p.left) (f.fold items.set), max p.depth items.level + 1)

/-- A character that an item stands for; without the Unicode flag it has to be ASCII. -/
def itemChar? (f : PatternFlags) : PatternAtom → Option Char
  | .literal c _ => if f.unicode || c.toNat < 128 then some c else none
  | _ => none

/-- The set that an item stands for by itself. -/
def itemSet? (f : PatternFlags) : PatternAtom → Option CharSet
  | .set set => some set
  | atom => (itemChar? f atom).map fun c => .range c.toNat c.toNat

def readClassItem? (f : PatternFlags) : Text → Option (PatternAtom × Text)
  | [] => none
  | '\\' :: s => readEscape? f s
  | c :: s => some (.literal c false, s)

/-- The next character that counts behind a dash; the search ends inside a comment. -/
def peekBehindDash (f : PatternFlags) (s : Text) : Option Char :=
  if !f.extended then s.head?
  else
    let t := s.dropWhile isBlank
    let t := if t.head? = some '#' then (t.drop 1).dropWhile isBlank else t
    t.head? <|> s.head?

/-- A character, a class escape, or a range of characters. -/
def readClassRange? (f : PatternFlags) (s : Text) : Option (CharSet × Text) := do
  let (first, s) ← readClassItem? f s
  match f.skip s with
  | [] => none
  | c :: rest =>
    let next := peekBehindDash f rest
    if c ≠ '-' ∨ next = some ']' ∨ next = some '-' then return (← itemSet? f first, c :: rest)
    else
      let (last, rest) ← readClassItem? f (f.skip rest)
      let first ← itemChar? f first
      let last ← itemChar? f last
      if first ≤ last then return (.range first.toNat last.toNat, rest) else none

/-- The dashes at the start of a class, which stand for themselves. -/
def readDashes (f : PatternFlags) : Nat → ClassItems → Text → ClassItems × Text
  | fuel + 1, items, '-' :: s => readDashes f fuel (items.add (asciiRange '-' '-') 0) (f.skip s)
  | _, items, s => (items, s)

/-- The start of a class from behind its bracket: whether it is negated, and the items that stand
for themselves there, which are dashes or a closing bracket. -/
def openClass? (f : PatternFlags) (s : Text) : Option (Bool × ClassItems × Text) :=
  let s := f.skip s
  let negated := s.head? == some '^'
  let s := if negated then f.skip (s.drop 1) else s
  let (items, s) := readDashes f s.length .none s
  match s with
  | [] => none
  | c :: rest =>
    if items.count = 0 ∧ c = ']' then
      if (f.skip rest).isEmpty then none
      else some (negated, items.add (asciiRange ']' ']') 0, f.skip rest)
    else some (negated, items, s)

/-- The rest of a class up to its closing bracket: its set, how deep it nests, and what follows. -/
def readClass? (f : PatternFlags) :
    Nat → Bool → Option PendingOp → ClassItems → Text → Option (CharSet × Nat × Text)
  | 0, _, _, _, _ => none
  | fuel + 1, negated, pending, items, s => do
    let continueWith := readClass? f fuel negated
    let operate := fun op rest =>
      let (left, depth) := closeOp f pending items
      continueWith (some ⟨op, left, depth⟩) .none rest
    match f.skip s with
    | [] => none
    | ']' :: rest =>
      let (set, depth) := closeOp f pending items
      return (← f.negate? negated (f.fold set), depth, rest)
    | '&' :: '&' :: rest => operate .intersection rest
    | '-' :: '-' :: rest => operate .difference rest
    | '~' :: '~' :: rest => operate .symmetricDifference rest
    | '[' :: rest =>
      match readAsciiClass? rest with
      | some (inverted, set, rest) =>
        continueWith pending (items.add (← f.negate? inverted (f.fold set)) 0) rest
      | none =>
        let (inverted, inner, rest) ← openClass? f rest
        let (set, depth, rest) ← readClass? f fuel inverted none inner rest
        continueWith pending (items.add set (depth + 1)) rest
    | c :: rest =>
      let (set, rest) ← readClassRange? f (c :: rest)
      continueWith pending (items.add set 0) rest

end EnvAudit
