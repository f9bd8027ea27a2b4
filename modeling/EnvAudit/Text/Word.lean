import EnvAudit.Text.Basic
import EnvAudit.Unicode.Derived

/-!
# Word characters

The classes that decide where a word begins and ends, and the ASCII classes of names.  For ASCII
each rule is stated outright; a table of the Unicode standard answers for the rest.
-/

namespace EnvAudit

def isAsciiUpper (c : Char) : Bool := 'A' ≤ c && c ≤ 'Z'

def isAsciiLower (c : Char) : Bool := 'a' ≤ c && c ≤ 'z'

def isAsciiDigit (c : Char) : Bool := '0' ≤ c && c ≤ '9'

def isAsciiLetter (c : Char) : Bool := isAsciiUpper c || isAsciiLower c

/-- The characters of a name in source code: ASCII letters, digits and the underscore. -/
def isNameChar (c : Char) : Bool := isAsciiLetter c || isAsciiDigit c || c == '_'

/-- What a name in source code starts with: no digit. -/
def isNameStart (c : Char) : Bool := isAsciiLetter c || c == '_'

/-- A character of a word; a word edge lies where only one of two neighbours is one. -/
def isWordChar (c : Char) : Bool :=
  if c.toNat < 128 then isNameChar c else Unicode.word.contains c

theorem isAsciiUpper_iff {c : Char} : isAsciiUpper c ↔ 65 ≤ c.toNat ∧ c.toNat ≤ 90 := by
  rw [isAsciiUpper, Bool.and_eq_true, decide_eq_true_eq, decide_eq_true_eq]
  exact Iff.rfl

theorem isAsciiLower_iff {c : Char} : isAsciiLower c ↔ 97 ≤ c.toNat ∧ c.toNat ≤ 122 := by
  rw [isAsciiLower, Bool.and_eq_true, decide_eq_true_eq, decide_eq_true_eq]
  exact Iff.rfl

theorem isAsciiDigit_iff {c : Char} : isAsciiDigit c ↔ 48 ≤ c.toNat ∧ c.toNat ≤ 57 := by
  rw [isAsciiDigit, Bool.and_eq_true, decide_eq_true_eq, decide_eq_true_eq]
  exact Iff.rfl

theorem isNameChar_iff {c : Char} :
    isNameChar c ↔ (65 ≤ c.toNat ∧ c.toNat ≤ 90) ∨ (97 ≤ c.toNat ∧ c.toNat ≤ 122)
      ∨ (48 ≤ c.toNat ∧ c.toNat ≤ 57) ∨ c = '_' := by
  rw [isNameChar, isAsciiLetter, Bool.or_eq_true, Bool.or_eq_true, Bool.or_eq_true,
    isAsciiUpper_iff, isAsciiLower_iff, isAsciiDigit_iff, beq_iff_eq, or_assoc, or_assoc]

theorem toNat_lt_of_isNameChar {c : Char} (h : isNameChar c) : c.toNat < 128 := by
  rcases isNameChar_iff.mp h with hc | hc | hc | rfl
  · omega
  · omega
  · omega
  · decide

theorem isWordChar_of_isNameChar {c : Char} (h : isNameChar c) : isWordChar c := by
  rw [isWordChar, if_pos (toNat_lt_of_isNameChar h), h]

/-- A decimal digit of any script. -/
def isDigit (c : Char) : Bool :=
  if c.toNat < 128 then isAsciiDigit c else Unicode.decimalNumber.contains c

namespace Text

/-- No word character stands just before: the start of the text, or any other character. -/
def opensWord : Option Char → Bool
  | none => true
  | some c => !isWordChar c

/-- No word character stands just after. -/
def closesWord : Text → Bool
  | [] => true
  | c :: _ => !isWordChar c

end Text

end EnvAudit
