/-!
# Sets of characters

A set of characters is a list of ranges of code points, in increasing order with a gap between
neighbours.  The operations keep that form, so a set is built from a written table or from other
sets, and a complement needs no search.
-/

namespace EnvAudit

/-- A set of characters as ranges of code points, both ends included. -/
structure CharSet where
  ranges : List (Nat × Nat)
deriving DecidableEq

namespace CharSet

/-- The greatest code point. -/
def lastCode : Nat := 0x10FFFF

def hasCode (s : CharSet) (n : Nat) : Bool := s.ranges.any fun r => r.1 ≤ n && n ≤ r.2

def contains (s : CharSet) (c : Char) : Bool := s.hasCode c.toNat

def empty : CharSet := ⟨[]⟩

def all : CharSet := ⟨[(0, lastCode)]⟩

def range (lo hi : Nat) : CharSet := ⟨[(lo, hi)]⟩

/-- Ranges in order of their first code point, with those that overlap or touch made one. -/
def joinFrom (lo hi : Nat) : List (Nat × Nat) → List (Nat × Nat)
  | [] => [(lo, hi)]
  | (lo', hi') :: rs =>
    if lo' ≤ hi + 1 then joinFrom lo (max hi hi') rs else (lo, hi) :: joinFrom lo' hi' rs

def join : List (Nat × Nat) → CharSet
  | [] => ⟨[]⟩
  | (lo, hi) :: rs => ⟨joinFrom lo hi rs⟩

def startsFirst (a b : Nat × Nat) : Bool := a.1 ≤ b.1

def ofRanges (rs : List (Nat × Nat)) : CharSet := join (rs.mergeSort startsFirst)

def union (a b : CharSet) : CharSet := join (List.merge a.ranges b.ranges startsFirst)

def unions (ss : List CharSet) : CharSet := ss.foldl union empty

/-- The gaps from code point `n` up to `last`. -/
def gapsFrom (last n : Nat) : List (Nat × Nat) → List (Nat × Nat)
  | [] => if n ≤ last then [(n, last)] else []
  | (lo, hi) :: rs =>
    (if n < lo then [(n, lo - 1)] else []) ++ gapsFrom last (hi + 1) rs

def compl (s : CharSet) : CharSet := ⟨gapsFrom lastCode 0 s.ranges⟩

def inter (a b : CharSet) : CharSet := compl (union (compl a) (compl b))

def diff (a b : CharSet) : CharSet := inter a (compl b)

/-- What is in exactly one of the two. -/
def symmDiff (a b : CharSet) : CharSet := union (diff a b) (diff b a)

/-! ## Written tables -/

/-- The value of a hexadecimal digit. -/
def hexDigit? (c : Char) : Option Nat :=
  if '0' ≤ c ∧ c ≤ '9' then some (c.toNat - 48)
  else if 'A' ≤ c ∧ c ≤ 'F' then some (c.toNat - 55)
  else if 'a' ≤ c ∧ c ≤ 'f' then some (c.toNat - 87)
  else none

/-- The number that hexadecimal digits write. -/
def hexNumber (digits : List Char) : Nat :=
  digits.foldl (fun n c => 16 * n + (hexDigit? c).getD 0) 0

/-- The words of a table, with blanks and line ends between; `word` is the one that is being
read, last character first. -/
def tableWordsFrom (word : List Char) : List Char → List (List Char)
  | [] => if word.isEmpty then [] else [word.reverse]
  | c :: s =>
    if c = ' ' ∨ c = '\n' then
      if word.isEmpty then tableWordsFrom [] s else word.reverse :: tableWordsFrom [] s
    else tableWordsFrom (c :: word) s

def tableWords (table : String) : List (List Char) := tableWordsFrom [] table.toList

/-- A range as it is written: two numbers with a dash, or one for a range of one code point. -/
def readRange (word : List Char) : Nat × Nat :=
  let lo := hexNumber (word.takeWhile (· ≠ '-'))
  match word.dropWhile (· ≠ '-') with
  | [] => (lo, lo)
  | _ :: hi => (lo, hexNumber hi)

def ofHex (table : String) : CharSet := ⟨(tableWords table).map readRange⟩

end CharSet

/-- The numbers of a table. -/
def hexCodes (table : String) : List Nat := (CharSet.tableWords table).map CharSet.hexNumber

end EnvAudit
