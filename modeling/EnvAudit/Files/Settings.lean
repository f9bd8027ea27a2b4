import EnvAudit.Failure
import EnvAudit.Files.Access

/-!
# Configuration files

Settings read from a file.  A file that the user names has to be there; the one with the usual
name may be missing.
-/

namespace EnvAudit

/-- The usual name of a configuration file. -/
def configName : Text := "dotenv-diff.config.json".toList

section

variable {m : Type → Type} [Monad m] (files : FileAccess m)

/-- The settings in a file. -/
def loadConfig (path : Text) : m (Except Failure Config) := do
  match ← files.text? path with
  | none => return .error (.configUnreadable path)
  | some text => return readConfig path text

/-- The settings in the file with the usual name, if the directory has one. -/
def discoverConfig (dir : Text) : m (Except Failure (Option Config)) := do
  let path := Path.join dir configName
  if ← files.isPresent path then return (← loadConfig files path).map some
  return .ok none

end

end EnvAudit
