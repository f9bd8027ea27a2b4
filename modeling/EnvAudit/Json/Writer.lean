import EnvAudit.Json.Basic

/-!
# Writing JSON

`Json.pretty` writes a value with every item and member on a line of its own, two blanks deeper than
what holds it: reports are written so.  `Json.compact` writes it on one line without blanks: the
answers of tests are written so, and nothing else is.
-/

namespace EnvAudit

/-! ## Strings -/

def hexDigitChar (n : Nat) : Char := Char.ofNat (if n < 10 then 48 + n else 87 + n)

/-- A character inside a string: quotes, backslashes and control characters are escaped. -/
def escapeChar (c : Char) : Text :=
  if c = '"' then ['\\', '"'] else if c = '\\' then ['\\', '\\']
  else if c = '\n' then ['\\', 'n'] else if c = '\r' then ['\\', 'r']
  else if c = '\t' then ['\\', 't'] else if c = '\x08' then ['\\', 'b']
  else if c = '\x0c' then ['\\', 'f']
  else if c.toNat < 32 then
    ['\\', 'u', '0', '0', hexDigitChar (c.toNat / 16), hexDigitChar (c.toNat % 16)]
  else [c]

def quoted (s : Text) : Text := '"' :: s.flatMap escapeChar ++ ['"']

/-! ## Values -/

namespace Json

mutual

def compact : Json → Text
  | .null => "null".toList
  | .bool b => (if b then "true" else "false").toList
  | .number digits => digits
  | .string s => quoted s
  | .array items => '[' :: compactItems items ++ [']']
  | .object members => '\x7b' :: compactMembers members ++ ['\x7d']

def compactItems : List Json → Text
  | [] => []
  | [j] => compact j
  | j :: js => compact j ++ ',' :: compactItems js

def compactMembers : List (Text × Json) → Text
  | [] => []
  | [(key, j)] => quoted key ++ ':' :: compact j
  | (key, j) :: ms => quoted key ++ ':' :: (compact j ++ ',' :: compactMembers ms)

end

/-- The start of a line that many levels deep. -/
def newLine (level : Nat) : Text := '\n' :: List.replicate (2 * level) ' '

mutual

/-- A value inside `level` arrays and objects. -/
def prettyAt (level : Nat) : Json → Text
  | .null => "null".toList
  | .bool b => (if b then "true" else "false").toList
  | .number digits => digits
  | .string s => quoted s
  | .array [] => ['[', ']']
  | .array items => '[' :: prettyItems (level + 1) items ++ newLine level ++ [']']
  | .object [] => ['\x7b', '\x7d']
  | .object members => '\x7b' :: prettyMembers (level + 1) members ++ newLine level ++ ['\x7d']

def prettyItems (level : Nat) : List Json → Text
  | [] => []
  | [j] => newLine level ++ prettyAt level j
  | j :: js => newLine level ++ prettyAt level j ++ ',' :: prettyItems level js

def prettyMembers (level : Nat) : List (Text × Json) → Text
  | [] => []
  | [(key, j)] => newLine level ++ quoted key ++ ": ".toList ++ prettyAt level j
  | (key, j) :: ms =>
    newLine level ++ quoted key ++ ": ".toList ++ prettyAt level j ++ ',' :: prettyMembers level ms

end

def pretty (j : Json) : Text := prettyAt 0 j

end Json

end EnvAudit
