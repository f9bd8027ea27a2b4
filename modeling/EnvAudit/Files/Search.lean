import EnvAudit.Failure
import EnvAudit.Files.Access
import EnvAudit.Report.Scan

/-!
# Searching for source files

Which files of a project are scanned: those with one of the extensions, outside the directories
that hold no source of the project.  The files come in the order of their paths, compared name by
name.  Names to skip and extensions to look for are text, so a name that is none is never skipped,
and an extension that is none is never looked for.
-/

namespace EnvAudit

/-- Directories that are never searched. -/
def skippedDirectories : List Text :=
  ["node_modules", ".git", "dist", "build", ".next", ".svelte-kit"].map String.toList

/-- The extensions of source files. -/
def sourceExtensions : List Text :=
  ["js", "ts", "jsx", "tsx", "mjs", "cjs", "svelte", "vue"].map String.toList

structure SourceSearch where
  root : Place
  excluded : List Text
  extensions : List Text
deriving DecidableEq

namespace SourceSearch

/-- The search that skips and looks for what is usual. -/
def of (root : Place) : SourceSearch := ⟨root, skippedDirectories, sourceExtensions⟩

/-- Skips directories with these names as well. -/
def exclude (s : SourceSearch) (names : List Text) : SourceSearch :=
  { s with excluded := s.excluded ++ names }

/-- Looks for these extensions instead; dots in front of them do not count, and without any the
search stays as it is. -/
def withExtensions (s : SourceSearch) (extensions : List Text) : SourceSearch :=
  if extensions.isEmpty then s
  else { s with extensions := extensions.map fun e => e.dropWhile (· = '.') }

def skips (s : SourceSearch) (name : FileName) : Bool := name.toText?.any s.excluded.contains

def wants (s : SourceSearch) (name : FileName) : Bool :=
  (name.extension?.bind FileName.toText?).any s.extensions.contains

end SourceSearch

/-! ## Walking -/

section

variable {m : Type → Type} [Monad m] (files : FileAccess m)

/-- The files below a directory as their names on the way, outside skipped directories. -/
def filesBelow (skips : FileName → Bool) : Nat → Place → m (List (List FileName))
  | 0, _ => return []
  | depth + 1, dir => do
    let names ← files.names dir
    let parts ← (names.mergeSort FileName.comesBefore).mapM fun name => do
      match ← files.kind? (dir.entry name) with
      | some .file => return [[name]]
      | some .directory =>
        if skips name then return []
        return (← filesBelow skips depth (dir.entry name)).map (name :: ·)
      | _ => return []
    return parts.flatten

/-- The path of a file as reports give it. -/
def reportedPath (names : List FileName) : Text :=
  Text.replaceChar '\\' '/' (Text.lossy ([0x2F].intercalate (names.map FileName.bytes)))

/-- Reads a found file, if it is text. -/
def readSource (root : Place) (names : List FileName) : m (Option SourceFile) :=
  return (← files.text? (root.under names)).map fun content => ⟨reportedPath names, content⟩

/-- The source files that a search finds. -/
def SourceSearch.collect (s : SourceSearch) : m (Except Failure (List SourceFile)) := do
  if !(← files.isDirectory s.root) then return .error (.rootNotFound s.root)
  let found ← filesBelow files s.skips files.maxDepth s.root
  let wanted := found.filter fun names => names.getLast?.any s.wants
  let read ← wanted.mapM (readSource files s.root)
  return .ok (read.filterMap id)

end

end EnvAudit
