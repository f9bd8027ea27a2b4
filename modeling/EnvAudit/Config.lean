import EnvAudit.Json.Reader
import EnvAudit.Report.Health

/-!
# Configuration

The settings that a project may keep in `dotenv-diff.config.json`.  Every member may be missing;
an unknown or repeated one is an error, and so is a value of the wrong type.  The settings may
also be given as an array in the order of the members.
-/

namespace EnvAudit

structure Config where
  envPath : Option Text
  examplePath : Option Text
  checkValues : Option Bool
  ignore : List Text
  ignoreRegex : List Text
  exclude : List Text
  extensions : List Text
  minSeverity : Option Text
  strict : Option Bool
  schemaPath : Option Text
  healthWeights : Option HealthWeights
deriving DecidableEq

/-- The settings of a project that sets none. -/
def Config.default : Config :=
  ⟨none, none, none, [], [], [], [], none, none, none, none⟩

/-! ## Members -/

/-- Reads a value of one type. -/
abbrev ValueReader (α : Type) := JsonSyntax → Option α

def readText : ValueReader Text
  | .string raw => unescape? raw
  | _ => none

def readBool : ValueReader Bool
  | .bool b => some b
  | _ => none

/-- A value, or `null` for none. -/
def readOptional {α : Type} (read : ValueReader α) : ValueReader (Option α)
  | .null => some none
  | j => (read j).map some

def readTexts : ValueReader (List Text)
  | .array items => items.mapM readText
  | _ => none

/-- A whole number of 32 bits without sign, fraction or exponent. -/
def readWeight : ValueReader Nat
  | .number digits =>
    if digits.all isAsciiDigit && natOfDigits digits < Nat.pow 2 32 then some (natOfDigits digits)
    else none
  | _ => none

/-! ## Weights -/

/-- The names of the weights, in order. -/
def weightNames : List Text :=
  ["highSecret", "mediumSecret", "missing", "uppercase", "logged", "unused", "framework",
    "exampleSecret", "expiration", "inconsistent"].map String.toList

/-- The weights with the one at this place set. -/
def ByFinding.setAt (w : ByFinding) (place value : Nat) : ByFinding :=
  match place with
  | 0 => { w with highSecret := value }
  | 1 => { w with mediumSecret := value }
  | 2 => { w with missing := value }
  | 3 => { w with uppercase := value }
  | 4 => { w with logged := value }
  | 5 => { w with unused := value }
  | 6 => { w with framework := value }
  | 7 => { w with exampleSecret := value }
  | 8 => { w with expiration := value }
  | 9 => { w with inconsistent := value }
  | _ => w

/-- The members with their names read, if every name is a text. -/
def namedMembers? (members : List (Text × JsonSyntax)) : Option (List (Text × JsonSyntax)) :=
  members.mapM fun m => (unescape? m.1).map fun name => (name, m.2)

/-- Whether no known name occurs twice. -/
def knownOnce (known names : List Text) : Bool := known.all fun n => names.count n ≤ 1

/-- Reads the values one after the other into the places from `place` on. -/
def weightsFromItems (place : Nat) (w : HealthWeights) : List JsonSyntax → Option HealthWeights
  | [] => some w
  | j :: js =>
    if place < weightNames.length then
      (readWeight j).bind fun v => weightsFromItems (place + 1) (w.setAt place v) js
    else none

/-- Reads the members that are weights and passes over the others. -/
def weightsFromMembers (w : HealthWeights) : List (Text × JsonSyntax) → Option HealthWeights
  | [] => some w
  | (name, j) :: ms =>
    match weightNames.idxOf? name with
    | none => weightsFromMembers w ms
    | some place => (readWeight j).bind fun v => weightsFromMembers (w.setAt place v) ms

/-- Weights as an object or as an array; weights that are not given have their defaults. -/
def readWeights : ValueReader HealthWeights
  | .array items => weightsFromItems 0 defaultWeights items
  | .object members => do
    let members ← namedMembers? members
    guard (knownOnce weightNames (members.map Prod.fst))
    weightsFromMembers defaultWeights members
  | _ => none

/-! ## Settings -/

/-- The names of the settings, in order. -/
def settingNames : List Text :=
  ["env", "example", "checkValues", "ignore", "ignoreRegex", "exclude", "extensions",
    "minSeverity", "strict", "t3Schema", "healthWeights"].map String.toList

/-- The settings with the one at this place read from a value. -/
def Config.readAt (c : Config) (place : Nat) (j : JsonSyntax) : Option Config :=
  match place with
  | 0 => (readOptional readText j).map fun v => { c with envPath := v }
  | 1 => (readOptional readText j).map fun v => { c with examplePath := v }
  | 2 => (readOptional readBool j).map fun v => { c with checkValues := v }
  | 3 => (readTexts j).map fun v => { c with ignore := v }
  | 4 => (readTexts j).map fun v => { c with ignoreRegex := v }
  | 5 => (readTexts j).map fun v => { c with exclude := v }
  | 6 => (readTexts j).map fun v => { c with extensions := v }
  | 7 => (readOptional readText j).map fun v => { c with minSeverity := v }
  | 8 => (readOptional readBool j).map fun v => { c with strict := v }
  | 9 => (readOptional readText j).map fun v => { c with schemaPath := v }
  | 10 => (readOptional readWeights j).map fun v => { c with healthWeights := v }
  | _ => none

def Config.fromItems (place : Nat) (c : Config) : List JsonSyntax → Option Config
  | [] => some c
  | j :: js => (c.readAt place j).bind fun c => c.fromItems (place + 1) js

def Config.fromMembers (c : Config) : List (Text × JsonSyntax) → Option Config
  | [] => some c
  | (name, j) :: ms =>
    (settingNames.idxOf? name).bind fun place => (c.readAt place j).bind fun c => c.fromMembers ms

/-- The settings that a document gives. -/
def Config.ofSyntax : JsonSyntax → Option Config
  | .array items => Config.default.fromItems 0 items
  | .object members => do
    let members ← namedMembers? members
    guard (knownOnce settingNames (members.map Prod.fst))
    Config.default.fromMembers members
  | _ => none

/-- The settings that a text gives. -/
def Config.parse? (text : Text) : Option Config := (JsonSyntax.parse? text).bind Config.ofSyntax

end EnvAudit
