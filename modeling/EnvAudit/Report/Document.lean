import EnvAudit.Json.Writer
import EnvAudit.Report.Scan

/-!
# Reports as JSON

The JSON form of findings and reports.  Members stand in a fixed order, and a member that has no
value is left out.
-/

namespace EnvAudit

/-- An object with members in this order. -/
def record (members : List (String × Json)) : Json :=
  .object (members.map fun m => (m.1.toList, m.2))

/-- A member that is left out if there is no value. -/
def optionalMember (name : String) (value : Option Json) : List (String × Json) :=
  (value.map fun v => (name, v)).toList

def list {α : Type} (toJson : α → Json) (xs : List α) : Json := .array (xs.map toJson)

/-! ## Findings -/

def Duplicate.toJson (d : Duplicate) : Json :=
  record [("key", .string d.key), ("count", .ofNat d.count)]

def ValueMismatch.toJson (m : ValueMismatch) : Json :=
  record [("key", .string m.key), ("expected", .string m.expected), ("actual", .string m.actual)]

def Difference.members (d : Difference) : List (String × Json) :=
  [("missing", .strings d.missing), ("extra", .strings d.extra),
    ("valueMismatches", list ValueMismatch.toJson d.valueMismatches)]

def Difference.toJson (d : Difference) : Json := record d.members

def MisnamedKey.toJson (m : MisnamedKey) : Json :=
  record [("key", .string m.key), ("suggestion", .string m.suggestion)]

def LookAlike.toJson (l : LookAlike) : Json :=
  record [("key1", .string l.key1), ("key2", .string l.key2), ("suggestion", .string l.suggestion)]

def Usage.toJson (u : Usage) : Json :=
  record <|
    [("variable", .string u.name), ("file", .string u.file), ("line", .ofNat u.line),
      ("column", .ofNat u.column), ("pattern", .string u.form.name),
      ("context", .string u.context), ("isLogged", .bool u.isLogged)]
    ++ optionalMember "module" (u.envModule.map fun m => .string m.path)

def ExampleSecret.toJson (s : ExampleSecret) : Json :=
  record [("key", .string s.key), ("value", .string s.value),
    ("reason", .string s.cause.message), ("severity", .string s.severity.name)]

def SourceSecret.toJson (s : SourceSecret) : Json :=
  record <|
    optionalMember "key" (s.key.map .string)
    ++ [("reason", .string s.cause.message), ("severity", .string s.severity.name),
      ("file", .string s.file), ("line", .ofNat s.line), ("snippet", .string s.snippet)]

def Expiry.toJson (e : Expiry) : Json :=
  record [("key", .string e.key), ("date", .string e.date), ("daysLeft", .ofInt e.daysLeft)]

def FrameworkWarning.toJson (w : FrameworkWarning) : Json :=
  record [("variable", .string w.name), ("reason", .string w.breach.message),
    ("file", .string w.file), ("line", .ofNat w.line), ("framework", .string w.framework.name)]

def SchemaWarning.toJson (w : SchemaWarning) : Json :=
  record [("variable", .string w.name), ("reason", .string (w.breach.message w.name)),
    ("file", .string w.file), ("line", .ofNat w.line), ("framework", .string schemaFramework)]

/-! ## Reports -/

def Stats.toJson (s : Stats) : Json :=
  record <|
    [("envCount", .ofNat s.envCount), ("exampleCount", .ofNat s.exampleCount),
      ("sharedCount", .ofNat s.sharedCount), ("duplicateCount", .ofNat s.duplicateCount),
      ("valueMismatchCount", .ofNat s.valueMismatchCount)]
    ++ match s.scan with
      | none => []
      | some c =>
        [("usageCount", .ofNat c.usages), ("uniqueVariableCount", .ofNat c.names),
          ("filesScanned", .ofNat c.files)]

def CompareReport.toJson (r : CompareReport) : Json :=
  record <| r.difference.members ++
    [("envDuplicates", list Duplicate.toJson r.envDuplicates),
      ("exampleDuplicates", list Duplicate.toJson r.exampleDuplicates),
      ("emptyKeys", .strings r.emptyKeys),
      ("uppercaseWarnings", list MisnamedKey.toJson r.misnamed),
      ("inconsistentNaming", list LookAlike.toJson r.lookAlikes),
      ("exampleSecrets", list ExampleSecret.toJson r.exampleSecrets),
      ("expirations", list Expiry.toJson r.expiries),
      ("stats", r.stats.toJson),
      ("healthScore", .ofNat r.healthScore)]

def ScanReport.toJson (r : ScanReport) : Json :=
  record <|
    [("usages", list Usage.toJson r.usages),
      ("missing", .strings r.missing),
      ("unused", .strings r.unused),
      ("secrets", list SourceSecret.toJson r.secrets),
      ("logged", list Usage.toJson r.logged),
      ("uppercaseWarnings", list MisnamedKey.toJson r.misnamed),
      ("frameworkWarnings", list FrameworkWarning.toJson r.frameworkWarnings),
      ("t3EnvWarnings", list SchemaWarning.toJson r.schemaWarnings),
      ("exampleSecrets", list ExampleSecret.toJson r.exampleSecrets),
      ("expirations", list Expiry.toJson r.expiries),
      ("duplicates", list Duplicate.toJson r.duplicates),
      ("inconsistentNaming", list LookAlike.toJson r.lookAlikes)]
    ++ optionalMember "exampleDiff" (r.exampleDifference.map Difference.toJson)
    ++ [("stats", r.stats.toJson), ("healthScore", .ofNat r.healthScore)]

end EnvAudit
