import EnvAudit.Env.Map
import EnvAudit.Source.Credential
import EnvAudit.Source.Entropy
import EnvAudit.Source.SensitiveName
import EnvAudit.Source.Suppression

/-!
# Secrets

Credentials that were left in an example file or in source text.  A value is suspicious if it
holds a credential of a known format or if its characters are spread as only random text is.  The
search of source text is written for any measure of how random a text is; a report takes the
entropy.
-/

namespace EnvAudit

/-! ## Severity -/

inductive Severity
  | low
  | medium
  | high
deriving DecidableEq

namespace Severity

def name : Severity → Text
  | .low => "low".toList
  | .medium => "medium".toList
  | .high => "high".toList

def rank : Severity → Nat
  | .low => 0
  | .medium => 1
  | .high => 2

instance : LE Severity := ⟨fun a b => a.rank ≤ b.rank⟩

instance : DecidableRel (LE.le : Severity → Severity → Prop) :=
  fun a b => inferInstanceAs (Decidable (a.rank ≤ b.rank))

/-- The severity of a name that is already trimmed and in lower case. -/
def ofName? (name : Text) : Option Severity :=
  [low, medium, high].find? fun s => s.name = name

/-- A severity as a user writes it: blanks around it and letter case do not count. -/
def normalName (written : Text) : Text := (Text.trim written).map Char.toLower

end Severity

/-! ## Findings -/

/-- Why a value is suspicious; entropies are in parts of one. -/
inductive SecretCause
  | knownFormat (provider : Text)
  | randomValue (entropy : Nat)
  | sensitiveName (entropy : Nat)
  | randomLiteral (entropy : Nat)
deriving DecidableEq

/-- The text followed by an entropy with two decimal places in brackets. -/
def withEntropy (text : String) (entropy : Nat) : Text :=
  text.toList ++ " (".toList ++ partsToText 2 entropy ++ [')']

def SecretCause.message : SecretCause → Text
  | .knownFormat provider =>
    "matches a known provider key pattern (".toList ++ provider ++ [')']
  | .randomValue e => withEntropy "high entropy value" e
  | .sensitiveName e => withEntropy "high entropy value assigned to a sensitive name" e
  | .randomLiteral e => withEntropy "high entropy string literal" e

/-- A suspicious value of an example file. -/
structure ExampleSecret where
  key : Text
  value : Text
  cause : SecretCause
  severity : Severity
deriving DecidableEq

/-- A suspicious line of a source file; the key is the name that is first assigned on it. -/
structure SourceSecret where
  key : Option Text
  cause : SecretCause
  severity : Severity
  file : Text
  line : Nat
  snippet : Text
deriving DecidableEq

/-! ## Values -/

/-- Values that plainly stand for one to be filled in. -/
def isPlaceholder (value : Text) : Bool :=
  let lower := Text.lower value
  lower == "example".toList || lower == "placeholder".toList || Text.hasPart "your_".toList value
    || value.contains '<' || Text.hasPart "CHANGE_ME".toList value

/-- The fewest characters for which the entropy of a value says anything. -/
def minRandomLength : Nat := 24

/-- The severity and the measure of a value that looks random. -/
def randomnessBy? (measure : Text → Nat) (value : Text) : Option (Severity × Nat) :=
  if value.length < minRandomLength then none
  else
    let e := measure value
    if exceeds e 80 then some (if exceeds e 92 then .high else .medium, e) else none

/-- The severity and the entropy of a value that looks random. -/
abbrev randomness? : Text → Option (Severity × Nat) := randomnessBy? entropy

/-- What is suspicious about an entry of an example file. -/
def exampleSecretsOf (entry : Binding) : List ExampleSecret :=
  let value := Text.trim entry.2
  if value.isEmpty || isPlaceholder value then []
  else
    (match credentialIn? value with
      | some f => [⟨entry.1, value, .knownFormat f.provider, .high⟩]
      | none => [])
    ++ (match randomness? value with
      | some (severity, e) => [⟨entry.1, value, .randomValue e, severity⟩]
      | none => [])

/-- The suspicious values of an example file, in the order of its keys. -/
def exampleSecrets (expected : EnvMap) : List ExampleSecret :=
  expected.entries.flatMap exampleSecretsOf

/-! ## Source lines -/

def isQuote (c : Char) : Bool := c == '"' || c == '\'' || c == '\x60'

/-- A name at the front that is assigned a quoted literal: the name may be quoted itself, and a
colon or an equals sign follows it. -/
def literalAssignment? (before : Option Char) (s : Text) : Option (Text × Text) := do
  let name := s.takeWhile isNameChar
  guard (Text.opensWord before && (name.head?.map isNameStart).getD false)
  let s := s.dropWhile isNameChar
  let s := ((Text.afterOne? (fun c => c == '"' || c == '\'') s).getD s).dropWhile isBlank
  let s ← Text.afterOne? (fun c => c == ':' || c == '=') s
  let s ← Text.afterOne? isQuote (s.dropWhile isBlank)
  let literal := s.takeWhile fun c => !isQuote c
  guard (!literal.isEmpty && !(s.dropWhile fun c => !isQuote c).isEmpty)
  return (name, literal)

/-- A quoted literal without white space at the front, and what follows. -/
def bareLiteral? (s : Text) : Option (Text × Text) := do
  let s ← Text.afterOne? isQuote s
  let literal := s.takeWhile fun c => !isQuote c && !isBlank c
  guard !literal.isEmpty
  let rest ← Text.afterOne? isQuote (s.dropWhile fun c => !isQuote c && !isBlank c)
  return (literal, rest)

/-- The quoted literals without white space on a line, from left to right. -/
def bareLiterals (line : Text) : List Text :=
  (Text.matchesOf (fun _ s => bareLiteral? s) line).map (·.value)

/-- How long literals have to be before they are looked at. -/
structure SecretLimits where
  minSensitiveLength : Nat := 8
  minLiteralLength : Nat := 32
deriving DecidableEq

def isWebAddress (literal : Text) : Bool :=
  "http://".toList.isPrefixOf literal || "https://".toList.isPrefixOf literal

/-- How many characters of a line a report shows. -/
def snippetLength : Nat := 120

/-- The trimmed line, cut with an ellipsis if it is too long. -/
def snippet (line : Text) : Text :=
  let line := Text.trim line
  if line.length ≤ snippetLength then line else line.take snippetLength ++ ['…']

section

variable (measure : Text → Nat) (limits : SecretLimits)

/-- A literal that a sensitive name is assigned and that looks random. -/
def sensitiveAssignmentBy? (assigned : Text × Text) : Option (Severity × Nat) :=
  if isSensitive assigned.1 && decide (limits.minSensitiveLength ≤ assigned.2.length)
      && !isPlaceholder assigned.2 then
    randomnessBy? measure assigned.2
  else none

/-- The measure of a literal that looks random wherever it stands. -/
def randomLiteralBy? (literal : Text) : Option Nat :=
  if decide (limits.minLiteralLength ≤ literal.length) && !isWebAddress literal
      && exceeds (measure literal) 85 then
    some (measure literal)
  else none

/-- What is suspicious about a line, at most one thing: a credential, else the literal that its
first assignment gives to a sensitive name, else a random literal. -/
def suspicionBy? (line : Text) : Option (Option Text × Severity × SecretCause) :=
  let assigned := Text.firstMatch? literalAssignment? line
  let key := assigned.map Prod.fst
  match credentialIn? line with
  | some f => some (key, .high, .knownFormat f.provider)
  | none =>
    match assigned.bind (sensitiveAssignmentBy? measure limits) with
    | some (severity, e) => some (key, severity, .sensitiveName e)
    | none => ((bareLiterals line).findSome? (randomLiteralBy? measure limits)).map fun e =>
        (key, .low, .randomLiteral e)

/-- The finding of a line, if it is not suppressed. -/
def secretOnLineBy? (file : Text) (line : SourceLine) : Option SourceSecret :=
  if line.suppressed then none
  else (suspicionBy? measure limits line.text).map fun (key, severity, cause) =>
    ⟨key, cause, severity, file, line.number, snippet line.text⟩

/-- The suspicious lines of a source file. -/
def sourceSecretsBy (file content : Text) : List SourceSecret :=
  (numberLines (Text.lines content)).filterMap (secretOnLineBy? measure limits file)

end

/-! ## Source lines by their entropy -/

abbrev sensitiveAssignment? : SecretLimits → Text × Text → Option (Severity × Nat) :=
  sensitiveAssignmentBy? entropy

abbrev randomLiteral? : SecretLimits → Text → Option Nat := randomLiteralBy? entropy

abbrev suspicion? : SecretLimits → Text → Option (Option Text × Severity × SecretCause) :=
  suspicionBy? entropy

abbrev secretOnLine? : SecretLimits → Text → SourceLine → Option SourceSecret :=
  secretOnLineBy? entropy

abbrev sourceSecrets : SecretLimits → Text → Text → List SourceSecret :=
  sourceSecretsBy entropy

end EnvAudit
