import EnvAudit.Source.Suppression

/-!
# Usages

References to environment variables in source text.  There are three ways to write one, and a
usage is reported with the place where it begins.
-/

namespace EnvAudit

/-! ## Ways to reach a variable -/

/-- The ways in which source text reaches a variable: `process.env.NAME`, `import.meta.env.NAME`,
or a path into a `$env` module. -/
inductive AccessForm
  | processEnv
  | importMetaEnv
  | svelteModule
deriving DecidableEq

def AccessForm.name : AccessForm → Text
  | .processEnv => "process.env".toList
  | .importMetaEnv => "import.meta.env".toList
  | .svelteModule => "sveltekit".toList

/-- One of the four `$env` modules: values are fixed when the program is built, or read when it
runs; they stay on the server, or go to the browser as well. -/
structure EnvModule where
  isStatic : Bool
  isPublic : Bool
deriving DecidableEq

def EnvModule.path (m : EnvModule) : Text :=
  "$env/".toList ++ (if m.isStatic then "static" else "dynamic").toList ++ ['/']
    ++ (if m.isPublic then "public" else "private").toList

/-- One reference to a variable. -/
structure Usage where
  name : Text
  file : Text
  line : Nat
  column : Nat
  form : AccessForm
  context : Text
  isLogged : Bool
  envModule : Option EnvModule
deriving DecidableEq

/-! ## References on a line -/

/-- The whole name in capitals at the front, and what follows; no word character may follow. -/
def capitalName? (s : Text) : Option (Text × Text) :=
  let isCapital := fun c => isAsciiUpper c || isAsciiDigit c || c == '_'
  let name := s.takeWhile isCapital
  let rest := s.dropWhile isCapital
  match name with
  | [] => none
  | c :: _ => if !isAsciiDigit c && Text.closesWord rest then some (name, rest) else none

/-- The whole name at the front, and what follows. -/
def anyName? (s : Text) : Option (Text × Text) :=
  let name := s.takeWhile isNameChar
  match name with
  | [] => none
  | c :: _ => if isAsciiDigit c then none else some (name, s.dropWhile isNameChar)

/-- One of two words at the front, as a choice, and what follows. -/
def eitherWord? (yes no : String) (s : Text) : Option (Bool × Text) :=
  match Text.after? yes.toList s with
  | some rest => some (true, rest)
  | none => (Text.after? no.toList s).map fun rest => (false, rest)

/-- The module and the name of a path into a `$env` module. -/
def moduleName? (s : Text) : Option ((Text × Option EnvModule) × Text) := do
  let s ← Text.after? "$env/".toList s
  let (isStatic, s) ← eitherWord? "static" "dynamic" s
  let s ← Text.after? ['/'] s
  let (isPublic, s) ← eitherWord? "public" "private" s
  let s ← Text.after? ['/'] s
  let (name, rest) ← anyName? s
  return ((name, some ⟨isStatic, isPublic⟩), rest)

/-- The variable, with its module if the form has one, of a reference at the front. -/
def AccessForm.read? (form : AccessForm) (s : Text) : Option ((Text × Option EnvModule) × Text) :=
  match form with
  | .processEnv => do
    let (name, rest) ← capitalName? (← Text.after? "process.env.".toList s)
    return ((name, none), rest)
  | .importMetaEnv => do
    let (name, rest) ← capitalName? (← Text.after? "import.meta.env.".toList s)
    return ((name, none), rest)
  | .svelteModule => moduleName? s

/-- The methods of `console` that print. -/
def logMethods : List Text := ["log", "error", "warn", "info", "debug"].map String.toList

/-- Whether a call that prints begins here. -/
def callsConsole (s : Text) : Bool :=
  (do
    let s ← Text.after? "console.".toList s
    let s ← Text.afterSome? logMethods s
    Text.after? ['('] (s.dropWhile isBlank)).isSome

/-- Whether a line calls a method that prints. -/
def isLoggingLine (line : Text) : Bool := Text.occurs (fun _ s => callsConsole s) line

/-- The references of one form on a line, from left to right. -/
def usagesOnLine (file : Text) (form : AccessForm) (line : SourceLine) : List Usage :=
  (Text.matchesOf (fun _ s => form.read? s) line.text).map fun m =>
    { name := m.value.1
      file := file
      line := line.number
      column := m.offset + 1
      form := form
      context := Text.trim line.text
      isLogged := isLoggingLine line.text
      envModule := m.value.2 }

/-- The references of one form in a file; no reference goes over a line end. -/
def usagesOfForm (file : Text) (form : AccessForm) (lines : List SourceLine) : List Usage :=
  (lines.filter fun l => !l.suppressed).flatMap (usagesOnLine file form)

/-- The usages in a file: form after form, and in the order of the text within each. -/
def scanUsages (file content : Text) : List Usage :=
  let lines := numberLines (Text.rows content)
  [.processEnv, .importMetaEnv, .svelteModule].flatMap fun form => usagesOfForm file form lines

end EnvAudit
