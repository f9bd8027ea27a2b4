import EnvAudit.Text.Basic

/-!
# Entropy

Random text uses its characters more evenly than words do.  The measure is the entropy of the
character frequencies, in units of the entropy of an even choice among 72 characters, and it is
computed with integers: logarithms with 64 binary places, and the result in parts of `10 ^ 18`.
-/

namespace EnvAudit

/-! ## Logarithms -/

/-- Bits of the fractional part of the binary logarithm of `m / 2 ^ 127`, for a quotient from 1
up to 2: the square is halved when it reaches 2, and then the bit is one. -/
def log2Bits : Nat → Nat → Nat → Nat
  | 0, _, acc => acc
  | places + 1, m, acc =>
    let square := m * m / Nat.pow 2 127
    if Nat.pow 2 128 ≤ square then log2Bits places (square / 2) (2 * acc + 1)
    else log2Bits places square (2 * acc)

/-- The binary logarithm of `n` in units of `2 ^ -64`. -/
def log2Fixed (n : Nat) : Nat :=
  let whole := Nat.log2 n
  log2Bits 64 (n * Nat.pow 2 127 / Nat.pow 2 whole) whole

/-! ## The measure -/

/-- How many characters the measure compares with. -/
def alphabetSize : Nat := 72

/-- The number of parts that make one. -/
def onePart : Nat := Nat.pow 10 18

/-- How often each character occurs. -/
def frequencies (s : Text) : List Nat := (firsts s).map fun c => s.count c

/-- The entropy of the text in parts of one: 0 for a text without two different characters, and 1
at most. -/
def entropy (s : Text) : Nat :=
  let n := s.length
  let spread := n * log2Fixed n - totalWeight (fun k => k * log2Fixed k) (frequencies s)
  min onePart (spread * onePart / (n * log2Fixed alphabetSize))

/-- Whether the entropy is above `hundredths / 100`. -/
def exceeds (parts hundredths : Nat) : Bool := hundredths * (onePart / 100) < parts

/-- The number with the given count of decimal places, rounded. -/
def partsToText (places parts : Nat) : Text :=
  let unit := onePart / Nat.pow 10 places
  let rounded := (parts + unit / 2) / unit
  Text.ofNat (rounded / Nat.pow 10 places) ++ ['.']
    ++ Text.ofNatPadded places (rounded % Nat.pow 10 places)

end EnvAudit
