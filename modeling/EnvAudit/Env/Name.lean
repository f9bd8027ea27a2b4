import EnvAudit.Text.Case
import EnvAudit.Text.Word

/-!
# Names of variables

The convention is UPPER_SNAKE_CASE.  `upperSnake` respells a name that way; `misnamed` reports the
names that break the convention; `lookAlikes` reports the pairs of names that differ in nothing
but underscores and letter case.
-/

namespace EnvAudit

/-! ## UPPER_SNAKE_CASE -/

/-- An underscore at every change from a lower-case letter or a digit to a capital; a run of
capitals stays together. -/
def separateHumps : Text → Text
  | a :: b :: s =>
    if (isAsciiLower a || isAsciiDigit a) && isAsciiUpper b then
      a :: '_' :: separateHumps (b :: s)
    else a :: separateHumps (b :: s)
  | s => s

def isNameSeparator (c : Char) : Bool := c == '-' || isBlank c

/-- Runs of dashes and white space made one underscore; `inRun` says that the character before
was one of them. -/
def joinSeparators (inRun : Bool) : Text → Text
  | [] => []
  | c :: s =>
    if isNameSeparator c then
      if inRun then joinSeparators true s else '_' :: joinSeparators true s
    else c :: joinSeparators false s

/-- The name in UPPER_SNAKE_CASE. -/
def upperSnake (name : Text) : Text :=
  Text.upper (joinSeparators false (separateHumps name))

/-- What UPPER_SNAKE_CASE is made of. -/
def isUpperSnakeChar (c : Char) : Bool := isAsciiUpper c || isAsciiDigit c || c == '_'

def isUpperSnake (name : Text) : Bool := !name.isEmpty && name.all isUpperSnakeChar

/-- A name that is not in UPPER_SNAKE_CASE, with its respelling. -/
structure MisnamedKey where
  key : Text
  suggestion : Text
deriving DecidableEq

/-- Every name that breaks the convention, once, in the order of first occurrence. -/
def misnamed (names : List Text) : List MisnamedKey :=
  ((firsts names).filter fun n => !isUpperSnake n).map fun n => ⟨n, upperSnake n⟩

/-! ## Names that look alike -/

/-- The name without underscores and in lower case. -/
def plainName (name : Text) : Text := Text.lower (name.filter (· ≠ '_'))

/-- Two names for what is probably one variable, and the one to keep. -/
structure LookAlike where
  key1 : Text
  key2 : Text
  suggestion : Text
deriving DecidableEq

/-- The pair as a warning, if the names are the same but for underscores and letter case; a name
with an underscore is kept before one without. -/
def lookAlike? (pair : Text × Text) : Option LookAlike :=
  if plainName pair.1 = plainName pair.2 then
    some ⟨pair.1, pair.2, if pair.1.contains '_' then pair.1 else pair.2⟩
  else none

/-- Every pair of different names that look alike, once. -/
def lookAlikes (names : List Text) : List LookAlike :=
  (pairsInOrder (firsts names)).filterMap lookAlike?

end EnvAudit
