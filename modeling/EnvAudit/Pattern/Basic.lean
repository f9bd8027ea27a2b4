import EnvAudit.Text.Word
import EnvAudit.Unicode.CharSet

/-!
# Patterns

A pattern is a regular expression that a user gives to pick out names.  All that is asked of one
is whether it matches somewhere in a name, so its meaning is a step on sets of positions: from the
positions where the pattern may begin to those where it may end.  The sets are bit masks, bit `i`
for the position with `i` characters before it.
-/

namespace EnvAudit

/-! ## Syntax -/

/-- Conditions on a position, told by the characters around it. -/
inductive Anchor
  | textStart
  | textEnd
  | lineStart
  | lineEnd
  | crlfStart
  | crlfEnd
  | wordEdge (unicode : Bool)
  | notWordEdge (unicode : Bool)
  | wordStart (unicode : Bool)
  | wordEnd (unicode : Bool)
  | wordStartHalf (unicode : Bool)
  | wordEndHalf (unicode : Bool)
deriving DecidableEq

inductive Pattern
  | empty
  | chars (set : CharSet)
  | anchor (a : Anchor)
  | seq (first second : Pattern)
  | alt (first second : Pattern)
  | group (inner : Pattern)
  | repeated (inner : Pattern) (least : Nat) (most : Option Nat)

/-! ## Anchors -/

/-- Whether the neighbour of a position is a word character, of any script or of ASCII. -/
def isWordNeighbour (unicode : Bool) : Option Char → Bool
  | none => false
  | some c => if unicode then isWordChar c else c.toNat < 128 && isNameChar c

/-- Whether the anchor holds between two characters; the ends of the text have none. -/
def Anchor.holds (before after : Option Char) : Anchor → Bool
  | .textStart => before.isNone
  | .textEnd => after.isNone
  | .lineStart => before.isNone || before == some '\n'
  | .lineEnd => after.isNone || after == some '\n'
  | .crlfStart =>
    before.isNone || before == some '\n' || (before == some '\r' && after != some '\n')
  | .crlfEnd => after.isNone || after == some '\r' || (after == some '\n' && before != some '\r')
  | .wordEdge u => isWordNeighbour u before != isWordNeighbour u after
  | .notWordEdge u => isWordNeighbour u before == isWordNeighbour u after
  | .wordStart u => !isWordNeighbour u before && isWordNeighbour u after
  | .wordEnd u => isWordNeighbour u before && !isWordNeighbour u after
  | .wordStartHalf u => !isWordNeighbour u before
  | .wordEndHalf u => !isWordNeighbour u after

/-! ## Positions -/

/-- The mask of the characters in a set. -/
def charMask (set : CharSet) : Text → Nat
  | [] => 0
  | c :: s => 2 * charMask set s + (if set.contains c then 1 else 0)

/-- The mask of the positions at which an anchor holds. -/
def anchorMask (a : Anchor) (before : Option Char) : Text → Nat
  | [] => if a.holds before none then 1 else 0
  | c :: s => 2 * anchorMask a (some c) s + (if a.holds before (some c) then 1 else 0)

/-- The step taken `n` times; it is over as soon as it changes nothing any more. -/
def iterate (step : Nat → Nat) : Nat → Nat → Nat
  | 0, m => m
  | n + 1, m =>
    let next := step m
    if next = m then m else iterate step n next

/-- The mask with all that steps lead to, at most `n` of them. -/
def spread (step : Nat → Nat) (n m : Nat) : Nat := iterate (fun m => m ||| step m) n m

/-- The positions where a match may end that begins at one of the given positions. -/
def Pattern.reach (s : Text) : Pattern → Nat → Nat
  | .empty, m => m
  | .chars set, m => (m &&& charMask set s) <<< 1
  | .anchor a, m => m &&& anchorMask a none s
  | .seq p q, m => q.reach s (p.reach s m)
  | .alt p q, m => p.reach s m ||| q.reach s m
  | .group p, m => p.reach s m
  | .repeated p least none, m => spread (p.reach s) (s.length + 1) (iterate (p.reach s) least m)
  | .repeated p least (some most), m =>
    spread (p.reach s) (most - least) (iterate (p.reach s) least m)

/-- Whether the pattern matches somewhere in the text. -/
def Pattern.isIn (p : Pattern) (s : Text) : Bool := p.reach s (Nat.pow 2 (s.length + 1) - 1) != 0

end EnvAudit
