import EnvAudit.Calendar
import EnvAudit.Env.Line
import EnvAudit.Text.Scan

/-!
# Expiry annotations

A comment such as `# @expire 2025-06-30` gives the variable that is assigned next an expiry date.
A date that is on no calendar takes an earlier annotation back.
-/

namespace EnvAudit

/-! ## Annotation lines -/

/-- A decimal digit in ASCII; dates are written with no others. -/
def digitValue? (c : Char) : Option Nat := if isAsciiDigit c then some (c.toNat - 48) else none

/-- The number that the digits write. -/
def readDigits (acc : Nat) : Text → Option Nat
  | [] => some acc
  | c :: s => (digitValue? c).bind fun d => readDigits (10 * acc + d) s

/-- What follows `dddd-dd-dd`, digits of any script allowed. -/
def afterDateShape? (s : Text) : Option Text := do
  let s ← Text.afterExactly? isDigit 4 s
  let s ← Text.after? ['-'] s
  let s ← Text.afterExactly? isDigit 2 s
  let s ← Text.after? ['-'] s
  Text.afterExactly? isDigit 2 s

/-- The date that a text of the form `dddd-dd-dd` writes, if a calendar has it. -/
def readDate? (s : Text) : Option Date := do
  let year ← readDigits 0 (s.take 4)
  let month ← readDigits 0 ((s.drop 5).take 2)
  let day ← readDigits 0 ((s.drop 8).take 2)
  let date : Date := ⟨year, month, day⟩
  if date.isValid then some date else none

/-- The date as annotations and reports write it. -/
def Date.toText (d : Date) : Text :=
  Text.ofNatPadded 4 d.year.toNat ++ ['-'] ++ Text.ofNatPadded 2 d.month ++ ['-']
    ++ Text.ofNatPadded 2 d.day

/-- The ten characters that an annotation line gives as its date.  The line may begin with `#` or
`//`, the word `expire` with `@`, and more may follow the date. -/
def annotation? (line : Text) : Option Text := do
  let s := ((Text.after? ['#'] line <|> Text.after? ['/', '/'] line).getD line).dropWhile isBlank
  let s ← Text.afterAnyCase? "expire".toList (Text.dropWord ['@'] s)
  let s ← Text.afterRun? isBlank 1 s
  let _ ← afterDateShape? s
  return s.take 10

/-! ## Assignment lines -/

/-- The characters of a key as this pass takes them: no blank may stand before the `=`. -/
def isKeyChar (c : Char) : Bool := isNameChar c || c == '.' || c == '-'

/-- The key at the front of a line, directly before an `=`. -/
def assignedKey? (line : Text) : Option Text :=
  let key := line.takeWhile isKeyChar
  if !key.isEmpty && (line.dropWhile isKeyChar).head? = some '=' then some key else none

/-! ## Warnings -/

/-- A variable with its expiry date and the days left, negative once it has expired. -/
structure Expiry where
  key : Text
  date : Text
  daysLeft : Int
deriving DecidableEq

/-- The dated keys of the lines, with `pending` the date of an annotation above them that no
assignment has taken yet. -/
def datedKeysFrom (pending : Option Date) : List Text → List (Text × Date)
  | [] => []
  | line :: rest =>
    let line := Text.trim line
    match annotation? line with
    | some written => datedKeysFrom (readDate? written) rest
    | none =>
      match assignedKey? line, pending with
      | some key, some date => (key, date) :: datedKeysFrom none rest
      | _, _ => datedKeysFrom pending rest

/-- The keys that an annotation gives a date, in the order of their lines. -/
def datedKeys (raw : Text) : List (Text × Date) := datedKeysFrom none (envLines raw)

/-- The dated keys of an env file as seen at an instant. -/
def expiries (raw : Text) (now : Instant) : List Expiry :=
  (datedKeys raw).map fun k => ⟨k.1, k.2.toText, daysUntil k.2 now⟩

end EnvAudit
