import EnvAudit.Files.Access

/-!
# Files of a project

The files of a project that say how it is built.
-/

namespace EnvAudit

/-- Where a schema usually is, below the root of a project. -/
def schemaPlaces : List Text :=
  ["src/env.mjs", "src/env.ts", "src/env.js", "env.mjs", "env.ts", "env.js"].map String.toList

section

variable {m : Type → Type} [Monad m] (files : FileAccess m)

/-- The text of the manifest; it is empty if there is none. -/
def readManifest (root : Text) : m Text :=
  files.textOrEmpty (Path.join root "package.json".toList)

/-- The first of the paths at which there is a file. -/
def firstFile? : List Text → m (Option Text)
  | [] => return none
  | path :: paths => do if ← files.isFile path then return some path else firstFile? paths

/-- The text of the schema that the user names, or of the first one at a usual place. -/
def readSchema (root : Text) (given : Option Text) : m (Option Text) := do
  match given with
  | some path => return some (← files.textOrEmpty (Path.join root path))
  | none =>
    match ← firstFile? files (schemaPlaces.map (Path.join root)) with
    | some path => return some (← files.textOrEmpty path)
    | none => return none

end

end EnvAudit
