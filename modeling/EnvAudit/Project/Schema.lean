import EnvAudit.Source.Usage

/-!
# Typed schemas

A project may declare its variables in a schema `createEnv` with one object of server variables
and one of client variables.  This file reads the declared names out of a schema file and checks
usages against them.
-/

namespace EnvAudit

/-- The declared variables: those of the server alone, and those the client sees. -/
structure EnvSchema where
  server : List Text
  client : List Text
deriving DecidableEq

/-! ## Reading a schema file -/

/-- The text up to the brace that closes `depth` open ones, if there is one. -/
def braceBody? (depth : Nat) : Text → Option Text
  | [] => none
  | c :: s =>
    if c = '\x7b' then (braceBody? (depth + 1) s).map (c :: ·)
    else if c = '\x7d' then
      if depth ≤ 1 then some [] else (braceBody? (depth - 1) s).map (c :: ·)
    else (braceBody? depth s).map (c :: ·)

def isOpening (c : Char) : Bool := c == '\x7b' || c == '(' || c == '['

def isClosing (c : Char) : Bool := c == '\x7d' || c == ')' || c == ']'

/-- The text outside all brackets, a line end after every comma; `depth` counts the open
brackets. -/
def outerText (depth : Nat) : Text → Text
  | [] => []
  | c :: s =>
    if isOpening c then outerText (depth + 1) s
    else if isClosing c then outerText (depth - 1) s
    else if depth = 0 then
      if c = ',' then c :: '\n' :: outerText depth s else c :: outerText depth s
    else outerText depth s

/-- A key at the start of a line, perhaps quoted, and what follows its colon. -/
def lineKey? (before : Option Char) (s : Text) : Option (Text × Text) := do
  guard ((before.map (· == '\n')).getD true)
  let isMark := fun c => c == '"' || c == '\''
  let s := s.dropWhile isBlank
  let (key, s) ← anyName? ((Text.afterOne? isMark s).getD s)
  let s := ((Text.afterOne? isMark s).getD s).dropWhile isBlank
  return (key, ← Text.after? [':'] s)

/-- The keys of the object whose body this is, without those of nested objects. -/
def topLevelKeys (body : Text) : List Text :=
  (Text.matchesOf lineKey? (outerText 0 body)).map (·.value)

/-- A header `server: {` or `client: {`; the value says whether it is the server's, and gives the
text behind the brace. -/
def sectionHeader? (before : Option Char) (s : Text) : Option ((Bool × Text) × Text) := do
  guard (Text.opensWord before)
  let (isServer, s) ← eitherWord? "server" "client" s
  let s ← Text.after? [':'] (s.dropWhile isBlank)
  let s ← Text.after? ['\x7b'] (s.dropWhile isBlank)
  return ((isServer, s), s)

/-- The schema with the keys of one more section, unless that side has keys already. -/
def EnvSchema.addSection (schema : EnvSchema) (isServer : Bool) (rest : Text) : EnvSchema :=
  let keys := (braceBody? 1 rest).map topLevelKeys
  if isServer then
    if schema.server.isEmpty then ⟨keys.getD [], schema.client⟩ else schema
  else if schema.client.isEmpty then ⟨schema.server, keys.getD []⟩ else schema

/-- The names that a schema file declares. -/
def EnvSchema.parse (content : Text) : EnvSchema :=
  (Text.matchesOf sectionHeader? content).foldl
    (fun schema m => schema.addSection m.value.1 m.value.2) ⟨[], []⟩

/-! ## Checking usages -/

/-- Where the code of a usage is taken to run. -/
inductive UsageContext
  | server
  | client
  | unknown
deriving DecidableEq

def UsageContext.name : UsageContext → Text
  | .server => "server".toList
  | .client => "client".toList
  | .unknown => "unknown".toList

def holdsAny (words : List String) (s : Text) : Bool := words.any fun w => Text.hasPart w.toList s

/-- The context told by the path, the server's marks first, and else by the form. -/
def usageContext (u : Usage) : UsageContext :=
  let path := Text.replaceChar '\\' '/' u.file
  if holdsAny ["server"] path then .server
  else if holdsAny ["/components/", "/pages/", "/app/", "client", "browser"] path then .client
  else
    match u.form with
    | .importMetaEnv => .client
    | .processEnv => .server
    | .svelteModule => .unknown

/-- How a usage does not fit the schema. -/
inductive SchemaBreach
  | serverOnly
  | clientOnly
  | undeclared
  | publicName
deriving DecidableEq

def SchemaBreach.message (name : Text) : SchemaBreach → Text
  | .serverOnly =>
    "Server-only variable \"".toList ++ name ++ "\" is used in client code".toList
  | .clientOnly =>
    "Client variable \"".toList ++ name
      ++ "\" is used in server code; declare it under server".toList
  | .undeclared => '"' :: name ++ "\" is not declared in the t3-env schema".toList
  | .publicName =>
    "Prefer typed access through the t3-env schema over \"NEXT_PUBLIC_\" variables".toList

/-- What warnings about a schema give as their framework. -/
def schemaFramework : Text := "t3-env".toList

/-- A breach with the usage at which it was first seen. -/
structure SchemaWarning where
  name : Text
  breach : SchemaBreach
  file : Text
  line : Nat
deriving DecidableEq

/-- What is wrong with a usage under the schema. -/
def EnvSchema.breaches (schema : EnvSchema) (u : Usage) : List SchemaBreach :=
  let inServer := schema.server.contains u.name
  let inClient := schema.client.contains u.name
  let context := usageContext u
  (if context = .client ∧ inServer ∧ ¬inClient then [.serverOnly] else [])
  ++ (if context = .server ∧ inClient ∧ ¬inServer then [.clientOnly] else [])
  ++ (if ¬inServer ∧ ¬inClient then [.undeclared] else [])
  ++ (if "NEXT_PUBLIC_".toList.isPrefixOf u.name then [.publicName] else [])

/-- Adds a warning, unless there is one for that name and breach. -/
def addWarning (found : List SchemaWarning) (w : SchemaWarning) : List SchemaWarning :=
  if found.any fun w' => w'.name = w.name ∧ w'.breach = w.breach then found else found ++ [w]

/-- The warnings of a usage added to those of earlier ones. -/
def EnvSchema.check (schema : EnvSchema) (found : List SchemaWarning) (u : Usage) :
    List SchemaWarning :=
  (schema.breaches u).foldl (fun found b => addWarning found ⟨u.name, b, u.file, u.line⟩) found

/-- The warnings of all usages, one for each name and breach. -/
def EnvSchema.checkAll (schema : EnvSchema) (us : List Usage) : List SchemaWarning :=
  us.foldl schema.check []

end EnvAudit
