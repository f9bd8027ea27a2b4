import EnvAudit.Json.Reader
import EnvAudit.Project.Framework

/-!
# Project manifests

What `package.json` says about a project: the framework it is built with, and whether it declares
its variables in a typed schema.
-/

namespace EnvAudit

/-- What a project is built with. -/
structure ProjectInfo where
  framework : Framework
  usesSchema : Bool
deriving DecidableEq

/-- The members of a manifest that list packages. -/
def packageLists : List Text :=
  ["dependencies", "devDependencies", "peerDependencies"].map String.toList

/-- Whether a manifest lists the package. -/
def dependsOn (manifest : Json) (package : String) : Bool :=
  packageLists.any fun list =>
    (manifest.member? list).any fun packages => (packages.member? package.toList).isSome

/-- The package that tells a framework; the first one that is listed decides. -/
def frameworkPackages : List (String × Framework) :=
  [("@sveltejs/kit", .svelteKit), ("next", .nextJs), ("@angular/core", .angular)]

/-- The packages for typed schemas. -/
def schemaPackages : List String := ["@t3-oss/env-nextjs", "@t3-oss/env-core"]

/-- Reads a manifest; a text that is no JSON says nothing. -/
def ProjectInfo.ofManifest (manifest : Json) : ProjectInfo where
  framework :=
    ((frameworkPackages.find? fun p => dependsOn manifest p.1).map Prod.snd).getD .unknown
  usesSchema := schemaPackages.any (dependsOn manifest)

def ProjectInfo.parse (text : Text) : ProjectInfo :=
  match Json.parse? text with
  | some manifest => .ofManifest manifest
  | none => ⟨.unknown, false⟩

end EnvAudit
