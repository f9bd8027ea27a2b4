import EnvAudit.Env.Line

/-!
# Repeated keys

A map keeps the last value of a key, so keys that are assigned more than once are counted on the
assignments of the file itself.
-/

namespace EnvAudit

/-- A key that a file assigns more than once, and how often it does. -/
structure Duplicate where
  key : Text
  count : Nat
deriving DecidableEq

/-- The repeated keys of a file in the order of their first assignments. -/
def duplicates (raw : Text) : List Duplicate :=
  let keys := (assignments raw).map Prod.fst
  ((firsts keys).map fun k => ⟨k, keys.count k⟩).filter fun d => 1 < d.count

/-- How many assignments are one too many. -/
def excess (ds : List Duplicate) : Nat := totalWeight (fun d => d.count - 1) ds

end EnvAudit
