import EnvAudit.Config
import EnvAudit.Env.Filter
import EnvAudit.Source.Secret

/-!
# Failures

What can be wrong with what a user asks for.  The checks themselves never fail: text that makes no
sense has no findings.
-/

namespace EnvAudit

inductive Failure
  | invalidPattern (pattern : Text)
  | configUnreadable (path : Text)
  | configInvalid (path : Text)
  | rootNotFound (path : Text)
  | invalidSeverity (name : Text)
deriving DecidableEq

namespace Failure

def message : Failure → Text
  | .invalidPattern pattern => "invalid ignore regex '".toList ++ pattern ++ ['\'']
  | .configUnreadable path => "config read failed for ".toList ++ path
  | .configInvalid path => "config parse failed for ".toList ++ path
  | .rootNotFound path => "source root not found: ".toList ++ path
  | .invalidSeverity name =>
    "invalid severity: ".toList ++ name ++ " (expected low, medium or high)".toList

end Failure

/-! ## Reading what a user gives -/

/-- The filter of these names and written patterns. -/
def readFilter (names patterns : List Text) : Except Failure KeyFilter :=
  (KeyFilter.build names patterns).mapError .invalidPattern

/-- The severity with that name; blanks around it and letter case do not count. -/
def readSeverity (written : Text) : Except Failure Severity :=
  let name := Severity.normalName written
  match Severity.ofName? name with
  | some severity => .ok severity
  | none => .error (.invalidSeverity name)

/-- The settings that a text gives; `path` says where the text is from. -/
def readConfig (path text : Text) : Except Failure Config :=
  match Config.parse? text with
  | some config => .ok config
  | none => .error (.configInvalid path)

end EnvAudit
