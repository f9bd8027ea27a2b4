import EnvAudit.Text.Lines
import EnvAudit.Text.Scan

/-!
# The ignore marker

A comment `dotenv-diff-ignore` takes its line and the next one out of every check of source text.
The words of the phrase may be joined by any run of dashes, underscores and white space, and
letter case does not count.
-/

namespace EnvAudit

/-- What may stand between the words of the phrase. -/
def isPhraseGap (c : Char) : Bool := isBlank c || c == '_' || c == '-'

/-- What follows the phrase. -/
def afterPhrase? (s : Text) : Option Text := do
  let s ← Text.afterAnyCase? "dotenv".toList s
  let s ← Text.afterAnyCase? "diff".toList (s.dropWhile isPhraseGap)
  Text.afterAnyCase? "ignore".toList (s.dropWhile isPhraseGap)

/-- The phrase behind the characters that open a comment. -/
def opensWithPhrase (opening : String) (s : Text) : Bool :=
  ((Text.after? opening.toList s).bind fun s => afterPhrase? (s.dropWhile isBlank)).isSome

/-- The phrase as all that a comment with these two ends holds. -/
def enclosesPhrase (opening closing : String) (s : Text) : Bool :=
  (do
    let s ← Text.after? opening.toList s
    let s ← afterPhrase? (s.dropWhile isBlank)
    Text.after? closing.toList (s.dropWhile isBlank)).isSome

/-- The phrase as words of their own. -/
def isBarePhrase (before : Option Char) (s : Text) : Bool :=
  Text.opensWord before && ((afterPhrase? s).map Text.closesWord).getD false

/-- A marker begins here: in one of three comment forms, or bare. -/
def marksHere (before : Option Char) (s : Text) : Bool :=
  opensWithPhrase "//" s || enclosesPhrase "/*" "*/" s || enclosesPhrase "<!--" "-->" s
    || isBarePhrase before s

/-- Whether a line carries the marker. -/
def hasIgnoreMarker (line : Text) : Bool := Text.occurs marksHere line

/-! ## Numbered lines -/

/-- A line of a source file with its number, counted from 1; a suppressed line is not checked. -/
structure SourceLine where
  number : Nat
  text : Text
  suppressed : Bool
deriving DecidableEq

/-- Numbers the lines from `n` on; `marked` says whether the line above carries the marker. -/
def numberLinesFrom (n : Nat) (marked : Bool) : List Text → List SourceLine
  | [] => []
  | l :: ls => ⟨n, l, marked || hasIgnoreMarker l⟩ :: numberLinesFrom (n + 1) (hasIgnoreMarker l) ls

/-- The lines with their numbers; a marker suppresses its own line and the one below. -/
def numberLines (ls : List Text) : List SourceLine := numberLinesFrom 1 false ls

end EnvAudit
