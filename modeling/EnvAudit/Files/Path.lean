import EnvAudit.Text.Basic

/-!
# Paths

A path is text: names with slashes between them.  Nothing is looked up here; the functions take
paths apart and put them together the way the system reads them.
-/

namespace EnvAudit.Path

def isAbsolute (p : Text) : Bool := p.head? == some '/'

/-- A path as it is meant from inside a directory. -/
def join (dir p : Text) : Text :=
  if isAbsolute p || dir.isEmpty then p
  else if dir.getLast? = some '/' then dir ++ p
  else dir ++ '/' :: p

/-! ## Parts -/

/-- A part that leads nowhere: two slashes in a row, or a single dot. -/
def isIdle (part : Text) : Bool := part.isEmpty || part == ['.']

/-- Parts, last first, without the idle ones at the end of the path; its first part stays. -/
def dropIdle : List Text → List Text
  | part :: above :: rest => if isIdle part then dropIdle (above :: rest) else part :: above :: rest
  | parts => parts

/-- The parts of a path, last first, up to the last that leads somewhere. -/
def partsFromEnd (p : Text) : List Text := dropIdle (Text.pieces '/' p).reverse

/-- The name that a path ends with. -/
def name? (p : Text) : Option Text :=
  match partsFromEnd p with
  | [] => none
  | last :: _ => if isIdle last || last == ['.', '.'] then none else some last

/-- The path of the directory in which a path ends; empty if the path has one part only. -/
def parent (p : Text) : Text :=
  match partsFromEnd p with
  | [] => []
  | _ :: above =>
    match dropIdle above with
    | [[]] => ['/']
    | parts => Text.glue ['/'] parts.reverse

/-- The directory in which a path ends; a bare name is one of the working directory. -/
def directoryOf (p : Text) : Text := if (parent p).isEmpty then ['.'] else parent p

end EnvAudit.Path
