import EnvAudit.Source.SensitiveName
import EnvAudit.Source.Usage

/-!
# Frameworks

Each framework hands variables to the browser in its own way, and its rules say which usages leak
a value of the server or read a variable that the framework never provides.
-/

namespace EnvAudit

/-! ## Frameworks and warnings -/

inductive Framework
  | svelteKit
  | nextJs
  | angular
  | unknown
deriving DecidableEq

def Framework.name : Framework → Text
  | .svelteKit => "sveltekit".toList
  | .nextJs => "nextjs".toList
  | .angular => "angular".toList
  | .unknown => "unknown".toList

/-- How a usage breaks a convention of its framework. -/
inductive RuleBreach
  | viteNameRequired
  | viteNameForbidden
  | viteNameInStaticModule (m : EnvModule)
  | publicNameRequired (m : EnvModule)
  | publicNameForbidden (m : EnvModule)
  | importMetaUnsupported
  | privateNameInClient
  | secretExposed
  | processEnvInComponent
  | browserNameWithoutMark
deriving DecidableEq

/-- A module's path and what names in it must or must not begin with. -/
def moduleRule (m : EnvModule) (rule : String) : Text := m.path ++ rule.toList

def RuleBreach.message : RuleBreach → Text
  | .viteNameRequired =>
    "Variables accessed through import.meta.env must start with \"VITE_\"".toList
  | .viteNameForbidden =>
    "Variables accessed through process.env must not start with \"VITE_\"".toList
  | .viteNameInStaticModule m => moduleRule m " variables must not start with \"VITE_\""
  | .publicNameRequired m => moduleRule m " variables must start with \"PUBLIC_\""
  | .publicNameForbidden m => moduleRule m " variables must not start with \"PUBLIC_\""
  | .importMetaUnsupported => "Next.js does not support import.meta.env; use process.env".toList
  | .privateNameInClient =>
    "Client components can only read variables prefixed with \"NEXT_PUBLIC_\"".toList
  | .secretExposed =>
    ("\"NEXT_PUBLIC_\" variables are exposed to the browser; " ++
      "do not store secrets under this prefix").toList
  | .processEnvInComponent =>
    "process.env is not available in Angular components; use environment files".toList
  | .browserNameWithoutMark =>
    "Client-side variables should use the \"NG_APP_\" prefix".toList

/-- A breach with the usage it is about. -/
structure FrameworkWarning where
  name : Text
  breach : RuleBreach
  file : Text
  line : Nat
  framework : Framework
deriving DecidableEq

/-! ## Client components -/

/-- Whether nothing but white space stands before the next line end. -/
def endsLine : Text → Bool
  | [] => true
  | c :: s => c == '\n' || (isBlank c && endsLine s)

def startsLine : Option Char → Bool
  | none => true
  | some c => c == '\n'

def isPlainQuote (c : Char) : Bool := c == '"' || c == '\''

/-- The directive on a line of its own, from the start of the line or of a blank line above it. -/
def isClientDirective (before : Option Char) (s : Text) : Bool :=
  startsLine before && (do
    let s ← Text.afterOne? isPlainQuote (s.dropWhile isBlank)
    let s ← Text.afterOne? isPlainQuote (← Text.after? "use client".toList s)
    guard (endsLine (Text.dropWord [';'] s))).isSome

/-- Whether a file is a component that runs in the browser. -/
def isClientComponent (content : Text) : Bool := Text.occurs isClientDirective content

/-! ## Rules -/

/-- Whether a name begins with the word. -/
def startsWith (w : String) (name : Text) : Bool := w.toList.isPrefixOf name

/-- The breaches that hold. -/
def breachesOf (rules : List (Bool × RuleBreach)) : List RuleBreach :=
  (rules.filter Prod.fst).map Prod.snd

/-- SvelteKit: names with `VITE_` belong to `import.meta.env` alone, and the `$env` modules part
the names by `PUBLIC_`. -/
def svelteBreaches (u : Usage) : List RuleBreach :=
  let vite := startsWith "VITE_" u.name
  let isPublic := startsWith "PUBLIC_" u.name
  match u.form, u.envModule with
  | .importMetaEnv, _ => breachesOf [(!vite, .viteNameRequired)]
  | .processEnv, _ => breachesOf [(vite, .viteNameForbidden)]
  | .svelteModule, none => []
  | .svelteModule, some m =>
    breachesOf [
      (m.isStatic && vite, .viteNameInStaticModule m),
      (m.isPublic && !isPublic, .publicNameRequired m),
      (!m.isPublic && isPublic, .publicNameForbidden m)]

/-- Next.js: client components see only names with `NEXT_PUBLIC_`, and what these hold goes to the
browser. -/
def nextBreaches (u : Usage) (isClientFile : Bool) : List RuleBreach :=
  let isPublic := startsWith "NEXT_PUBLIC_" u.name
  breachesOf [
    (u.form == .importMetaEnv, .importMetaUnsupported),
    (isClientFile && u.form == .processEnv && !isPublic, .privateNameInClient),
    (isPublic && isSensitive u.name, .secretExposed)]

/-- Angular: components have no `process.env`, and names for the browser begin with `NG_APP_`. -/
def angularBreaches (u : Usage) : List RuleBreach :=
  breachesOf [
    (u.form == .processEnv && ".component.ts".toList.isSuffixOf u.file, .processEnvInComponent),
    (startsWith "CLIENT_" u.name || startsWith "BROWSER_" u.name, .browserNameWithoutMark)]

/-- The rules of a framework; `clientFiles` are the files known to be client components. -/
structure FrameworkRules where
  framework : Framework
  clientFiles : List Text

def FrameworkRules.breaches (rules : FrameworkRules) (u : Usage) : List RuleBreach :=
  match rules.framework with
  | .svelteKit => svelteBreaches u
  | .nextJs => nextBreaches u (rules.clientFiles.contains u.file)
  | .angular => angularBreaches u
  | .unknown => []

/-- The warnings about a usage. -/
def FrameworkRules.check (rules : FrameworkRules) (u : Usage) : List FrameworkWarning :=
  (rules.breaches u).map fun b => ⟨u.name, b, u.file, u.line, rules.framework⟩

end EnvAudit
