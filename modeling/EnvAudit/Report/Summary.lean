import EnvAudit.Report.Scan

/-!
# Reports for readers

A report as lines of text.  A cross marks what makes a run fail, a warning sign what only a strict
run fails on, and a check mark that there is nothing to mend.
-/

namespace EnvAudit

/-! ## Lines -/

def errorMark : Text := ['✗', ' ']

def warningMark : Text := ['⚠', ' ']

def okMark : Text := ['✓', ' ']

/-- The lines as one text, each with a line end. -/
def joinLines (lines : List Text) : Text := lines.flatMap fun l => l ++ ['\n']

def item (text : Text) : Text := "    - ".toList ++ text

/-- A title with the number of items, and the items below it; nothing if there are none. -/
def titledList (mark : Text) (title : String) (items : List Text) : List Text :=
  if items.isEmpty then []
  else
    [mark, title.toList, [' ', '('], Text.ofNat items.length, [')', ':']].flatten :: items.map item

/-! ## Findings -/

def ValueMismatch.summary (v : ValueMismatch) : Text :=
  [v.key, ": expected '".toList, v.expected, "', got '".toList, v.actual, ['\'']].flatten

def Duplicate.summary (fileName : String) (d : Duplicate) : Text :=
  [warningMark, d.key, " appears ".toList, Text.ofNat d.count,
    " times in the ".toList, fileName.toList, " file".toList].flatten

def MisnamedKey.summary (k : MisnamedKey) : Text :=
  [warningMark, k.key, " should be ".toList, k.suggestion].flatten

def LookAlike.summary (l : LookAlike) : Text :=
  [warningMark, l.key1, " and ".toList, l.key2, " look alike; use ".toList,
    l.suggestion].flatten

/-- The severity in brackets. -/
def Severity.tag (s : Severity) : Text := '[' :: s.name ++ [']', ' ']

def ExampleSecret.summary (s : ExampleSecret) : Text :=
  [errorMark, s.severity.tag, s.key, " in example: ".toList, s.cause.message].flatten

/-- A date that has passed is an error. -/
def Expiry.summary (e : Expiry) : Text :=
  if e.daysLeft < 0 then
    [errorMark, e.key, " expired on ".toList, e.date, [' ', '('],
      Text.ofInt (-e.daysLeft), " days ago)".toList].flatten
  else
    [warningMark, e.key, " expires on ".toList, e.date, [' ', '('],
      Text.ofInt e.daysLeft, " days left)".toList].flatten

/-- A place in a source file. -/
def place (file : Text) (number : Nat) : Text := file ++ ':' :: Text.ofNat number

def SourceSecret.summary (s : SourceSecret) : List Text :=
  [[if s.severity = .high then errorMark else warningMark, s.severity.tag,
      place s.file s.line, [' '], s.cause.message].flatten,
    "      ".toList ++ s.snippet]

def Usage.logSummary (u : Usage) : Text :=
  [warningMark, u.name, " is logged at ".toList, place u.file u.line].flatten

/-- A broken rule of the framework or schema with that name. -/
def ruleLine (rules variableName atPlace message : Text) : Text :=
  [warningMark, '[' :: rules ++ [']', ' '], variableName, " at ".toList, atPlace, [':', ' '],
    message].flatten

def FrameworkWarning.summary (w : FrameworkWarning) : Text :=
  ruleLine w.framework.name w.name (place w.file w.line) w.breach.message

def SchemaWarning.summary (w : SchemaWarning) : Text :=
  ruleLine schemaFramework w.name (place w.file w.line) (w.breach.message w.name)

def scoreLine (score : Nat) : Text :=
  ["Health score: ".toList, Text.ofNat score, "/100".toList].flatten

/-! ## Reports -/

/-- A line that is there only if the condition holds. -/
def lineIf (condition : Bool) (text : Text) : List Text := if condition then [text] else []

/-- The comparison of the files at these two paths. -/
def CompareReport.summary (r : CompareReport) (env expected : Text) : Text :=
  joinLines <|
    [["Comparing ".toList, env, " with ".toList, expected].flatten, []]
    ++ lineIf r.difference.isClean (okMark ++ "All keys match".toList)
    ++ titledList errorMark "Missing keys" r.difference.missing
    ++ titledList warningMark "Extra keys" r.difference.extra
    ++ titledList warningMark "Value mismatches" (r.difference.valueMismatches.map (·.summary))
    ++ r.envDuplicates.map (·.summary "env")
    ++ r.exampleDuplicates.map (·.summary "example")
    ++ titledList warningMark "Empty values" r.emptyKeys
    ++ r.misnamed.map (·.summary)
    ++ r.lookAlikes.map (·.summary)
    ++ r.exampleSecrets.map (·.summary)
    ++ r.expiries.map (·.summary)
    ++ [[], scoreLine r.healthScore]

/-- How much a scan of the directory has seen. -/
def ScanStats.summary (s : ScanStats) (dir : Text) : Text :=
  ["Scanned ".toList, Text.ofNat s.files, " files in ".toList, dir, ", ".toList,
    Text.ofNat s.usages, " usages of ".toList, Text.ofNat s.names, " variables".toList].flatten

/-- How an env file differs from its example. -/
def exampleLines (d : Difference) : List Text :=
  titledList errorMark "Missing from env (declared in example)" d.missing
    ++ titledList warningMark "Not in example" d.extra

/-- The scan of a directory. -/
def ScanReport.summary (r : ScanReport) (dir : Text) : Text :=
  joinLines <|
    [(r.stats.scan.getD ⟨0, 0, 0⟩).summary dir, []]
    ++ lineIf r.missing.isEmpty (okMark ++ "Every used variable is declared".toList)
    ++ titledList errorMark "Used but not declared" r.missing
    ++ titledList warningMark "Declared but not used" r.unused
    ++ r.secrets.flatMap (·.summary)
    ++ r.logged.map (·.logSummary)
    ++ r.misnamed.map (·.summary)
    ++ r.frameworkWarnings.map (·.summary)
    ++ r.schemaWarnings.map (·.summary)
    ++ r.exampleSecrets.map (·.summary)
    ++ r.expiries.map (·.summary)
    ++ r.duplicates.map (·.summary "env")
    ++ r.lookAlikes.map (·.summary)
    ++ (r.exampleDifference.map exampleLines).getD []
    ++ [[], scoreLine r.healthScore]

end EnvAudit
