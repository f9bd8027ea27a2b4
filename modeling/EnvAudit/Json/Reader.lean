import EnvAudit.Json.Basic
import EnvAudit.Text.Scan
import EnvAudit.Unicode.CharSet

/-!
# Reading JSON

A text is cut into tokens, and a machine with a stack of open arrays and objects makes a document
of them.  `JsonSyntax.value?` then reads the document: it takes the escapes out of the strings and
refuses nesting that is too deep, numbers that are too large for a double, and surrogates that
stand alone.
-/

namespace EnvAudit

/-! ## Tokens -/

inductive JsonToken
  | openArray
  | closeArray
  | openObject
  | closeObject
  | colon
  | comma
  | string (raw : Text)
  | atom (value : JsonSyntax)

def isJsonBlank (c : Char) : Bool := c == ' ' || c == '\t' || c == '\n' || c == '\r'

/-- The characters that a backslash may stand before, other than `u`. -/
def isSimpleEscape (c : Char) : Bool := "\"\\/bfnrt".toList.contains c

def isHexDigit (c : Char) : Bool := (CharSet.hexDigit? c).isSome

/-- The rest of a string up to its closing quote, escapes unchanged, and what follows. -/
def splitString : Text → Option (Text × Text)
  | [] => none
  | '"' :: s => some ([], s)
  | '\\' :: 'u' :: a :: b :: c :: d :: s =>
    if [a, b, c, d].all isHexDigit then
      (splitString s).map fun p => ('\\' :: 'u' :: a :: b :: c :: d :: p.1, p.2)
    else none
  | '\\' :: c :: s =>
    if isSimpleEscape c then (splitString s).map fun p => ('\\' :: c :: p.1, p.2) else none
  | c :: s =>
    if c.toNat < 32 || c == '\\' then none else (splitString s).map fun p => (c :: p.1, p.2)

/-- Digits without a zero in front of others, and what follows. -/
def afterWholePart? (s : Text) : Option Text :=
  match s with
  | '0' :: s => some s
  | c :: s => if isAsciiDigit c then some (s.dropWhile isAsciiDigit) else none
  | [] => none

/-- What follows the fraction of a number, if it has one. -/
def afterFraction? (s : Text) : Option Text :=
  match s with
  | '.' :: s => Text.afterRun? isAsciiDigit 1 s
  | s => some s

/-- What follows the exponent of a number, if it has one. -/
def afterExponent? (s : Text) : Option Text :=
  match s with
  | c :: s =>
    if c = 'e' ∨ c = 'E' then
      Text.afterRun? isAsciiDigit 1 ((Text.afterOne? (fun c => c == '+' || c == '-') s).getD s)
    else some (c :: s)
  | [] => some []

/-- Whether the text is a number and nothing else. -/
def isJsonNumber (s : Text) : Bool :=
  let rest := ((afterWholePart? (Text.dropWord ['-'] s)).bind afterFraction?).bind afterExponent?
  rest.any (·.isEmpty)

def isNumberChar (c : Char) : Bool :=
  isAsciiDigit c || c == '-' || c == '+' || c == '.' || c == 'e' || c == 'E'

/-- The token at the front, and what follows. -/
def nextToken? (s : Text) : Option (JsonToken × Text) :=
  match s with
  | [] => none
  | c :: rest =>
    if c = '[' then some (.openArray, rest)
    else if c = ']' then some (.closeArray, rest)
    else if c = '\x7b' then some (.openObject, rest)
    else if c = '\x7d' then some (.closeObject, rest)
    else if c = ':' then some (.colon, rest)
    else if c = ',' then some (.comma, rest)
    else if c = '"' then (splitString rest).map fun p => (.string p.1, p.2)
    else if isNumberChar c && c != 'e' && c != 'E' then
      let digits := s.takeWhile isNumberChar
      if isJsonNumber digits then some (.atom (.number digits), s.dropWhile isNumberChar) else none
    else
      ((Text.after? "null".toList s).map fun r => (.atom .null, r))
        <|> ((Text.after? "true".toList s).map fun r => (.atom (.bool true), r))
        <|> (Text.after? "false".toList s).map fun r => (.atom (.bool false), r)

/-- The tokens of a text; every token takes a character, so the length of the text is fuel
enough. -/
def tokensWithin : Nat → Text → Option (List JsonToken)
  | 0, _ => some []
  | fuel + 1, s =>
    match s.dropWhile isJsonBlank with
    | [] => some []
    | c :: s => (nextToken? (c :: s)).bind fun p => (tokensWithin fuel p.2).map (p.1 :: ·)

def jsonTokens? (s : Text) : Option (List JsonToken) := tokensWithin (s.length + 1) s

/-! ## Documents -/

/-- An array or object that is still open; what it holds so far is kept last first, and an object
also keeps the key of the value that is being read. -/
inductive JsonFrame
  | items (done : List JsonSyntax)
  | members (done : List (Text × JsonSyntax)) (key : Text)

/-- What the machine waits for. -/
inductive JsonState
  | value
  | firstItem
  | firstKey (done : List (Text × JsonSyntax))
  | nextKey (done : List (Text × JsonSyntax))
  | colon (done : List (Text × JsonSyntax)) (key : Text)
  | finished (value : JsonSyntax)

/-- One step of the machine, with the open arrays and objects, innermost first. -/
def jsonStep? : JsonState → List JsonFrame → JsonToken → Option (JsonState × List JsonFrame)
  | .firstItem, .items done :: fs, .closeArray => some (.finished (.array done.reverse), fs)
  | .value, fs, .atom v | .firstItem, fs, .atom v => some (.finished v, fs)
  | .value, fs, .string raw | .firstItem, fs, .string raw => some (.finished (.string raw), fs)
  | .value, fs, .openArray | .firstItem, fs, .openArray => some (.firstItem, .items [] :: fs)
  | .value, fs, .openObject | .firstItem, fs, .openObject => some (.firstKey [], fs)
  | .firstKey done, fs, .closeObject => some (.finished (.object done.reverse), fs)
  | .firstKey done, fs, .string key | .nextKey done, fs, .string key => some (.colon done key, fs)
  | .colon done key, fs, .colon => some (.value, .members done key :: fs)
  | .finished v, .items done :: fs, .comma => some (.value, .items (v :: done) :: fs)
  | .finished v, .items done :: fs, .closeArray =>
    some (.finished (.array (v :: done).reverse), fs)
  | .finished v, .members done key :: fs, .comma => some (.nextKey ((key, v) :: done), fs)
  | .finished v, .members done key :: fs, .closeObject =>
    some (.finished (.object ((key, v) :: done).reverse), fs)
  | _, _, _ => none

def jsonRun? : JsonState → List JsonFrame → List JsonToken → Option JsonSyntax
  | .finished v, [], [] => some v
  | _, _, [] => none
  | state, fs, t :: ts => (jsonStep? state fs t).bind fun p => jsonRun? p.1 p.2 ts

/-- The document that a text writes. -/
def JsonSyntax.parse? (s : Text) : Option JsonSyntax := (jsonTokens? s).bind (jsonRun? .value [])

/-! ## Strings -/

/-- The character of a one-letter escape. -/
def escapedChar (c : Char) : Char :=
  if c = 'b' then '\x08' else if c = 'f' then '\x0c' else if c = 'n' then '\n'
  else if c = 'r' then '\r' else if c = 't' then '\t' else c

/-- The text of a string; two surrogates stand for one character, one alone for none. -/
def unescape? : Text → Option Text
  | [] => some []
  | '\\' :: 'u' :: a :: b :: c :: d :: s =>
    let unit := CharSet.hexNumber [a, b, c, d]
    if 0xD800 ≤ unit ∧ unit < 0xDC00 then
      match s with
      | '\\' :: 'u' :: e :: f :: g :: h :: s =>
        let low := CharSet.hexNumber [e, f, g, h]
        if 0xDC00 ≤ low ∧ low < 0xE000 then
          (unescape? s).map (Char.ofNat (0x10000 + (unit - 0xD800) * 0x400 + (low - 0xDC00)) :: ·)
        else none
      | _ => none
    else if 0xDC00 ≤ unit ∧ unit < 0xE000 then none
    else (unescape? s).map (Char.ofNat unit :: ·)
  | '\\' :: c :: s => (unescape? s).map (escapedChar c :: ·)
  | c :: s => (unescape? s).map (c :: ·)

/-! ## Numbers -/

/-- The least number that is rounded up beyond every double. -/
def doubleLimit : Nat := Nat.pow 2 1024 - Nat.pow 2 970

def natOfDigits (digits : Text) : Nat := digits.foldl (fun n c => 10 * n + (c.toNat - 48)) 0

/-- Whether the number that the digits write is one that a double can hold, rounded. -/
def fitsDouble (digits : Text) : Bool :=
  let s := Text.dropWord ['-'] digits
  let whole := s.takeWhile isAsciiDigit
  let s := s.dropWhile isAsciiDigit
  let fraction := (s.drop 1).takeWhile isAsciiDigit
  let fraction := if s.head? = some '.' then fraction else []
  let exponentPart := s.dropWhile fun c => c != 'e' && c != 'E'
  let mantissa := natOfDigits (whole ++ fraction)
  let exponent := natOfDigits (exponentPart.filter isAsciiDigit)
  let zeros := min exponent 100000
  if mantissa = 0 || exponentPart.contains '-' then
    mantissa < doubleLimit * Nat.pow 10 (fraction.length + zeros)
  else mantissa * Nat.pow 10 zeros < doubleLimit * Nat.pow 10 fraction.length

/-! ## Values -/

mutual

/-- The value of a document that is nested at most `depth` deep. -/
def JsonSyntax.value? (depth : Nat) : JsonSyntax → Option Json
  | .null => some .null
  | .bool b => some (.bool b)
  | .number digits => if fitsDouble digits then some (.number digits) else none
  | .string raw => (unescape? raw).map .string
  | .array items => if depth = 0 then none else (itemValues? (depth - 1) items).map .array
  | .object members =>
    if depth = 0 then none else (memberValues? (depth - 1) members).map .object

def itemValues? (depth : Nat) : List JsonSyntax → Option (List Json)
  | [] => some []
  | j :: js => do return (← j.value? depth) :: (← itemValues? depth js)

def memberValues? (depth : Nat) : List (Text × JsonSyntax) → Option (List (Text × Json))
  | [] => some []
  | (key, j) :: ms => do return (← unescape? key, ← j.value? depth) :: (← memberValues? depth ms)

end

/-- How deep arrays and objects may be nested. -/
def maxJsonDepth : Nat := 127

/-- The value that a text writes. -/
def Json.parse? (s : Text) : Option Json := (JsonSyntax.parse? s).bind (·.value? maxJsonDepth)

end EnvAudit
