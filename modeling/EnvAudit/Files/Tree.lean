import EnvAudit.Files.Access

/-!
# File trees

A file system as a value: a file is its bytes, and a directory is a list of entries in the order
in which it lists them.  Names are bytes as well.  `Tree.access` answers the questions about the
files below a directory; nothing is known of what is above it.
-/

namespace EnvAudit

inductive Tree
  | file (content : ByteArray)
  | directory (entries : List (FileName × Tree))

namespace Tree

def empty : Tree := .directory []

/-- A file that holds the text. -/
def ofText (text : Text) : Tree := .file (String.ofList text).toUTF8

def entries : Tree → List (FileName × Tree)
  | .file _ => []
  | .directory es => es

def kind : Tree → FileKind
  | .file _ => .file
  | .directory _ => .directory

def content? : Tree → Option ByteArray
  | .file bytes => some bytes
  | .directory _ => none

mutual

/-- How many directories are inside one another. -/
def depth : Tree → Nat
  | .file _ => 0
  | .directory es => depthOfEntries es + 1

def depthOfEntries : List (FileName × Tree) → Nat
  | [] => 0
  | (_, t) :: es => max t.depth (depthOfEntries es)

end

end Tree

/-! ## Following a path -/

/-- How a path is followed.  Names of one canonical form lead to the same entry, and two dots where
there is no directory around either stay there or lead nowhere. -/
structure PathRules where
  canonical : FileName → FileName
  staysAtTop : Bool

namespace PathRules

/-- Any difference of names counts, and nothing is known of what is above the top. -/
def exact : PathRules := ⟨id, false⟩

variable (r : PathRules)

/-- What a name leads to among the entries of a directory. -/
def lookup (es : List (FileName × Tree)) (name : FileName) : Option Tree :=
  (es.find? fun e => r.canonical e.1 == r.canonical name).map Prod.snd

/-- Where a name leads, with the directories around, innermost first. -/
def enter (s : List Tree × Tree) (name : FileName) : Option (List Tree × Tree) :=
  (r.lookup s.2.entries name).map fun t => (s.2 :: s.1, t)

/-- Where one part of a path leads. -/
def step (s : List Tree × Tree) (part : Text) : Option (List Tree × Tree) :=
  match s.2 with
  -- not even a single dot leads on from a file
  | .file _ => none
  | .directory _ =>
    if Path.isIdle part then some s
    else if part = ['.', '.'] then
      match s.1 with
      | [] => if r.staysAtTop then some s else none
      | parent :: above => some (above, parent)
    else r.enter s part

/-- Where the parts of a path lead. -/
def walk (s : List Tree × Tree) (parts : List Text) : Option (List Tree × Tree) :=
  parts.foldlM r.step s

/-- Where names on the way lead. -/
def descend (s : List Tree × Tree) (names : List FileName) : Option (List Tree × Tree) :=
  names.foldlM r.enter s

/-- What is under the names on the way, from where a path has led. -/
def under? (start : Option (List Tree × Tree)) (names : List FileName) : Option Tree :=
  (start.bind fun s => r.descend s names).map Prod.snd

end PathRules

namespace Tree

/-- What is at a place. -/
def find? (t : Tree) (p : Place) : Option Tree :=
  if p.path.isEmpty || Path.isAbsolute p.path then none
  else PathRules.exact.under? (PathRules.exact.walk ([], t) (Text.pieces '/' p.path)) p.below

/-- The answers of the tree as the working directory. -/
def access (t : Tree) : FileAccess Id where
  kind? p := (t.find? p).map kind
  content? p := (t.find? p).bind content?
  names p := ((t.find? p).map fun t => t.entries.map Prod.fst).getD []
  maxDepth := t.depth

/-! ## Changing a tree

No check changes a file.  These functions set up the trees on which the program is run in tests, as
the commands that write, remove and move files would.
-/

/-- The entries with the one of that name changed; a new one comes last. -/
def changeEntry (name : FileName) (change : Option Tree → Tree) :
    List (FileName × Tree) → List (FileName × Tree)
  | [] => [(name, change none)]
  | e :: es =>
    if e.1 = name then (name, change (some e.2)) :: es else e :: changeEntry name change es

/-- Changes what the names lead to; directories on the way are made. -/
def change (f : Option Tree → Tree) : List FileName → Option Tree → Tree
  | [], t => f t
  | name :: names, t => .directory (changeEntry name (change f names) ((t.map entries).getD []))

/-- Two dots take the name before them back. -/
def addPart (names : List FileName) (part : Text) : List FileName :=
  if Path.isIdle part then names
  else if part = ['.', '.'] then names.dropLast
  else names ++ [FileName.ofText part]

/-- The names on the way that a path describes. -/
def namesOf (path : Text) : List FileName := (Text.pieces '/' path).foldl addPart []

/-- Writes a file, or puts a whole tree at the path. -/
def put (t : Tree) (path : Text) (new : Tree) : Tree :=
  change (fun _ => new) (namesOf path) (some t)

/-- Makes a directory, if there is none. -/
def makeDirectory (t : Tree) (path : Text) : Tree :=
  change (fun old => old.getD empty) (namesOf path) (some t)

/-- Takes out what the names lead to. -/
def removeAt : List FileName → Tree → Tree
  | [], t => t
  | _, .file content => .file content
  | [name], .directory es => .directory (es.filter fun e => e.1 ≠ name)
  | name :: names, .directory es =>
    .directory (es.map fun e => if e.1 = name then (e.1, removeAt names e.2) else e)

def remove (t : Tree) (path : Text) : Tree := removeAt (namesOf path) t

/-- Moves what is at one path to another. -/
def move (t : Tree) (source target : Text) : Tree :=
  match t.find? source with
  | none => t
  | some moved => (t.remove source).put target moved

end Tree

end EnvAudit
