import EnvAudit.Env.Map

/-!
# Differences

The keys in which an env file and its example differ.  A blank value of the example stands for
any value.
-/

namespace EnvAudit

/-- A key of both files whose value is not the one the example gives. -/
structure ValueMismatch where
  key : Text
  expected : Text
  actual : Text
deriving DecidableEq

/-- What an env file lacks, has beyond its example, and sets differently. -/
structure Difference where
  missing : List Text
  extra : List Text
  valueMismatches : List ValueMismatch
deriving DecidableEq

namespace Difference

def none : Difference := ⟨[], [], []⟩

def isClean (d : Difference) : Bool :=
  d.missing.isEmpty && d.extra.isEmpty && d.valueMismatches.isEmpty

end Difference

/-- The mismatch of an entry of the example, if the env map has the key with another value. -/
def mismatch? (current : EnvMap) (entry : Binding) : Option ValueMismatch :=
  if (Text.trim entry.2).isEmpty then none
  else
    match current.get? entry.1 with
    | none => none
    | some actual => if actual = entry.2 then none else some ⟨entry.1, entry.2, actual⟩

/-- Compares an env map with its example; values only if asked. -/
def difference (current expected : EnvMap) (checkValues : Bool) : Difference where
  missing := expected.keys.filter fun k => !current.contains k
  extra := current.keys.filter fun k => !expected.contains k
  valueMismatches := if checkValues then expected.entries.filterMap (mismatch? current) else []

/-- How many keys are in both maps. -/
def sharedCount (current expected : EnvMap) : Nat := (current.keys.filter expected.contains).length

end EnvAudit
