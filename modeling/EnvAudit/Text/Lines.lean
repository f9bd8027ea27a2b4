import EnvAudit.Text.Basic

/-!
# Lines

Two readings of a text as lines.  `Text.rows` cuts at every line feed and keeps whatever stands
between; `Text.lines` also takes a carriage return before the line feed as part of the line end
and drops an empty last row.  `lines_eq_rows` says how the second comes from the first.
-/

namespace EnvAudit.Text

/-- What stands between the line feeds, carriage returns included; never an empty list. -/
def rows (s : Text) : List Text := pieces '\n' s

/-- A line without the carriage return that belongs to its line end. -/
def dropReturn (l : Text) : Text :=
  if l.getLast? = some '\r' then l.dropLast else l

/-- The rows as lines: the last row has no line end, so it keeps a carriage return, and it is a
line only if something is on it. -/
def endLines : List Text → List Text
  | [] => []
  | [l] => if l.isEmpty then [] else [l]
  | l :: ls => dropReturn l :: endLines ls

/-- The lines of a text; a line ends with a line feed or with a carriage return before one. -/
def lines (s : Text) : List Text := endLines (rows s)

theorem lines_eq_rows (s : Text) : lines s = endLines (rows s) := rfl

@[simp] theorem lines_nil : lines [] = [] := rfl

end EnvAudit.Text
