import EnvAudit.Text.Basic

/-!
# JSON

Values, and documents as they are written.  A document keeps the escapes of its strings and the
digits of its numbers, because some parts of a configuration are read past without being looked
at: such a part may hold a number that is too large or a string that is no text.
-/

namespace EnvAudit

/-- A JSON value; a number is the text of its digits, and members keep their order. -/
inductive Json
  | null
  | bool (value : Bool)
  | number (digits : Text)
  | string (value : Text)
  | array (items : List Json)
  | object (members : List (Text × Json))

/-- A JSON document as it is written, the strings still with their escapes. -/
inductive JsonSyntax
  | null
  | bool (value : Bool)
  | number (digits : Text)
  | string (raw : Text)
  | array (items : List JsonSyntax)
  | object (members : List (Text × JsonSyntax))

namespace Json

def ofNat (n : Nat) : Json := .number (Text.ofNat n)

def ofInt (n : Int) : Json := .number (Text.ofInt n)

def strings (ts : List Text) : Json := .array (ts.map .string)

/-- The value of the last member of that name. -/
def member? (name : Text) : Json → Option Json
  | .object members => members.reverse.lookup name
  | _ => none

/-! ## Answers of tests

A report leaves out what there is none of.  Tests give their results as JSON with these, written by
`Json.compact`.
-/

def ofOption : Option Json → Json
  | none => .null
  | some j => j

def isObject : Json → Bool
  | .object _ => true
  | _ => false

end Json

end EnvAudit
