/-!
# Calendar

Dates of the Gregorian calendar, instants with nanoseconds, and the whole days from an instant to
a date.  The days are computed the way a clock with millisecond ticks and binary floating point
does it: the span is cut to milliseconds, the quotient is rounded to 53 significant bits, and the
result is rounded up.
-/

namespace EnvAudit

/-! ## Dates -/

def isLeapYear (year : Int) : Bool := year % 4 == 0 && (year % 100 != 0 || year % 400 == 0)

def daysInMonth (year : Int) (month : Nat) : Nat :=
  match month with
  | 2 => if isLeapYear year then 29 else 28
  | 4 | 6 | 9 | 11 => 30
  | _ => 31

/-- A day of the Gregorian calendar, which also counts the years before its introduction. -/
structure Date where
  year : Int
  month : Nat
  day : Nat
deriving DecidableEq

namespace Date

def isValid (d : Date) : Bool :=
  1 ≤ d.month && d.month ≤ 12 && 1 ≤ d.day && d.day ≤ daysInMonth d.year d.month

/-- Days from 1 March of the year 0; a year of this count ends with February, so the leap day is
its last. -/
def daysFromMarch (d : Date) : Int :=
  let year := if d.month ≤ 2 then d.year - 1 else d.year
  let month : Int := if d.month ≤ 2 then d.month + 9 else d.month - 3
  365 * year + year / 4 - year / 100 + year / 400 + (153 * month + 2) / 5 + (d.day - 1)

/-- Days from 1 January 1970. -/
def dayNumber (d : Date) : Int := d.daysFromMarch - 719468

end Date

/-! ## Instants -/

/-- A point in time: nanoseconds from the start of 1 January 1970 UTC. -/
structure Instant where
  nanos : Int
deriving DecidableEq

namespace Instant

def ofSeconds (seconds : Int) (nanos : Int) : Instant := ⟨seconds * 1000000000 + nanos⟩

/-- The first instant of a day, UTC. -/
def midnight (d : Date) : Instant := ofSeconds (d.dayNumber * 86400) 0

end Instant

/-! ## Quotients in binary floating point -/

/-- `a / b` rounded to the nearest integer, a tie to the even one. -/
def divNearestEven (a b : Nat) : Nat :=
  let q := a / b
  let r := 2 * (a % b)
  if b < r ∨ (r = b ∧ q % 2 = 1) then q + 1 else q

/-- A number of the form `num / 2 ^ scale`. -/
structure Dyadic where
  num : Nat
  scale : Nat

/-- `a / b` rounded to 53 significant bits, for quotients of at least `2 ^ -64`: the scale is such
that the rounded quotient has 53 bits, and quotients of more are whole multiples of a power of
two. -/
def roundQuotient (a b : Nat) : Dyadic :=
  let fine := a * Nat.pow 2 128 / b
  let bits := Nat.log2 fine + 1
  if bits ≤ 53 + 128 then
    let scale := 53 + 128 - bits
    ⟨divNearestEven (a * Nat.pow 2 scale) b, scale⟩
  else
    let unit := Nat.pow 2 (bits - (53 + 128))
    ⟨divNearestEven a (b * unit) * unit, 0⟩

/-- The least integer that is not below the number. -/
def Dyadic.ceil (x : Dyadic) : Nat := (x.num + (Nat.pow 2 x.scale - 1)) / Nat.pow 2 x.scale

def Dyadic.floor (x : Dyadic) : Nat := x.num / Nat.pow 2 x.scale

/-- The quotient of two doubles rounded up; `a` is first rounded to a double itself. -/
def ceilQuotient (a : Int) (b : Nat) : Int :=
  let magnitude := (roundQuotient a.natAbs 1).floor
  let quotient := roundQuotient magnitude b
  if a < 0 then -(quotient.floor : Int) else quotient.ceil

/-! ## Days until a date -/

def millisPerDay : Nat := 86400000

/-- Days from an instant until the midnight with which a date begins, rounded up. -/
def daysUntil (date : Date) (now : Instant) : Int :=
  let nanos := (Instant.midnight date).nanos - now.nanos
  ceilQuotient (nanos.tdiv 1000000) millisPerDay

end EnvAudit
