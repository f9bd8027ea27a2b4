import EnvAudit.Command.Run
import Std.Time.DateTime.Timestamp

/-!
# The program

Answers the questions about files from the disk, takes the time from the clock, and prints what a
run ends with.  The system library takes paths and gives names as text, so on a disk a name that is
no text is not told apart from the one that it is shown as.
-/

namespace EnvAudit

/-- The answer, or `default` if the system refuses to give one. -/
def orElse {α : Type} (default : α) (ask : IO α) : IO α := do
  try ask catch _ => return default

def kindOnDisk (path : Text) : IO (Option FileKind) := do
  let real ← IO.FS.realPath (String.ofList path)
  match (← real.metadata).type with
  | .file => return some .file
  | .dir => return some .directory
  | _ => return some .other

def contentOnDisk (path : Text) : IO (Option ByteArray) := do
  return some (← IO.FS.readBinFile (String.ofList path))

def namesOnDisk (path : Text) : IO (List FileName) := do
  let real ← IO.FS.realPath (String.ofList path)
  return (← real.readDir).toList.map fun entry => FileName.ofText entry.fileName.toList

/-- The files on disk.  The system names no path of more than 4096 bytes. -/
def disk : FileAccess IO where
  kind? p := orElse none (kindOnDisk p)
  content? p := orElse none (contentOnDisk p)
  names p := orElse [] (namesOnDisk p)
  maxDepth := 4096

def currentInstant : IO Instant := do
  return ⟨(← Std.Time.Timestamp.now).toNanosecondsSinceUnixEpoch.val⟩

end EnvAudit

def main (arguments : List String) : IO UInt32 := do
  let now ← EnvAudit.currentInstant
  let outcome ← EnvAudit.runCommandLine EnvAudit.disk now (arguments.map String.toList)
  IO.print (String.ofList outcome.printed)
  IO.eprint (String.ofList outcome.note)
  return outcome.exitCode.toUInt32
