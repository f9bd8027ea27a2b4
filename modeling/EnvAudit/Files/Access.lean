import EnvAudit.Files.Name
import EnvAudit.Files.Path
import EnvAudit.Text.Case

/-!
# Looking at files

What the checks ask of a file system: the kind and the content of what is at a place, and the names
in a directory.  Everything else is written in terms of these three questions, for any monad that
answers them.  Nothing fails: what cannot be read counts as empty.

A place is given by a path and by names that directories have listed.  The paths come from the user
and are text; the names are whatever the system has.
-/

namespace EnvAudit

/-- What is below a path under the names on the way. -/
structure Place where
  path : Text
  below : List FileName
deriving DecidableEq

namespace Place

/-- What the path itself leads to. -/
def ofPath (path : Text) : Place := ⟨path, []⟩

instance : Coe Text Place := ⟨ofPath⟩

def under (p : Place) (names : List FileName) : Place := { p with below := p.below ++ names }

def entry (p : Place) (name : FileName) : Place := p.under [name]

/-- The path of the place as it is shown. -/
def shown (p : Place) : Text := (p.below.map FileName.shown).foldl Path.join p.path

instance : CoeOut Place Text := ⟨shown⟩

/-- The name with which the place ends. -/
def name? (p : Place) : Option Text :=
  match p.below.getLast? with
  | some n => some n.shown
  | none => Path.name? p.path

/-- The directory around the place. -/
def directory (p : Place) : Place :=
  if p.below.isEmpty then ofPath (Path.directoryOf p.path)
  else { p with below := p.below.dropLast }

end Place

inductive FileKind
  | file
  | directory
  | other
deriving DecidableEq

/-- The answers of a file system.  No path leads through more than `maxDepth` directories. -/
structure FileAccess (m : Type → Type) where
  kind? : Place → m (Option FileKind)
  content? : Place → m (Option ByteArray)
  names : Place → m (List FileName)
  maxDepth : Nat

namespace FileAccess

variable {m : Type → Type} [Monad m] (files : FileAccess m)

def isPresent (p : Place) : m Bool := return (← files.kind? p).isSome

def isFile (p : Place) : m Bool := return (← files.kind? p) == some .file

def isDirectory (p : Place) : m Bool := return (← files.kind? p) == some .directory

/-- The text of a file, if there is one and it is UTF-8. -/
def text? (p : Place) : m (Option Text) := return (← files.content? p).bind Text.ofUtf8?

/-- The text of a file; a file that cannot be read is empty. -/
def textOrEmpty (p : Place) : m Text := return (← files.text? p).getD []

/-- The first entry of a directory that is shown with that name, letter case aside. -/
def findAnyCase? (dir : Place) (name : Text) : m (Option Place) :=
  return ((← files.names dir).find? fun n => Text.lower n.shown == Text.lower name).map dir.entry

/-- The place itself if there is something, or else an entry beside it whose name differs in letter
case alone, if there is one. -/
def resolve (p : Place) : m Place := do
  if ← files.isPresent p then return p
  match p.name? with
  | none => return p
  | some name => return (← files.findAnyCase? p.directory name).getD p

end FileAccess

end EnvAudit
