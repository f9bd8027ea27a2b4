import EnvAudit.Text.Lines

/-!
# Lines of an env file

An env file is flat: a line is an assignment `KEY=VALUE`, or it is passed over.  There are no
quotes, no escapes and no values of several lines.
-/

namespace EnvAudit

/-- A key with the value a line gives it. -/
abbrev Binding := Text × Text

/-- The lines of an env file, without byte order marks in front of the first. -/
def envLines (raw : Text) : List Text := Text.lines (raw.dropWhile (· = '\uFEFF'))

/-- The assignment on a line: what stands around the first `=`, trimmed.  Blank lines, comments,
lines without `=` and lines without a key are no assignments. -/
def assignment? (line : Text) : Option Binding :=
  let line := Text.trim line
  if line.head? = some '#' then none
  else
    match Text.splitOnce? '=' line with
    | none => none
    | some (key, value) =>
      if (Text.trim key).isEmpty then none else some (Text.trim key, Text.trim value)

/-- The assignments of an env file in the order of its lines. -/
def assignments (raw : Text) : List Binding := (envLines raw).filterMap assignment?

end EnvAudit
