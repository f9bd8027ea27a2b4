import EnvAudit.Text.Basic

/-!
# Text and bytes

A text has its bytes in UTF-8.  Bytes need not be those of a text: `ofUtf8?` reads them if they are,
and `lossy` shows them in any case, with replacement characters for what is no character: the
longest part that begins a character and does not go on as one is shown as one of them.
-/

namespace EnvAudit.Text

/-- The bytes of the text in UTF-8. -/
def bytes (s : Text) : List UInt8 := s.flatMap String.utf8EncodeChar

/-- The text that bytes encode, if they are UTF-8. -/
def ofUtf8? (bytes : ByteArray) : Option Text := (String.fromUTF8? bytes).map String.toList

/-! ## Bytes that need not be UTF-8 -/

/-- Stands for bytes that are no character. -/
def replacement : Char := '\uFFFD'

/-- The ranges of the bytes that follow a first byte of several; there are none if no character of
several bytes begins with it. -/
def tailRanges (first : Nat) : List (Nat × Nat) :=
  -- one byte would do for what begins with the last of these
  if first < 0xC2 then []
  else if first < 0xE0 then [(0x80, 0xBF)]
  -- below 0xA0 two bytes would do
  else if first = 0xE0 then [(0xA0, 0xBF), (0x80, 0xBF)]
  -- from 0xA0 on there are surrogates, which are no characters
  else if first = 0xED then [(0x80, 0x9F), (0x80, 0xBF)]
  else if first < 0xF0 then [(0x80, 0xBF), (0x80, 0xBF)]
  -- below 0x90 three bytes would do
  else if first = 0xF0 then [(0x90, 0xBF), (0x80, 0xBF), (0x80, 0xBF)]
  else if first < 0xF4 then [(0x80, 0xBF), (0x80, 0xBF), (0x80, 0xBF)]
  -- from 0x90 on there are no code points
  else if first = 0xF4 then [(0x80, 0x8F), (0x80, 0xBF), (0x80, 0xBF)]
  else []

/-- A character that is begun: its code point as far as it is read, and the ranges of the bytes to
come.  Without any to come no character is begun. -/
structure Begun where
  code : Nat
  tail : List (Nat × Nat)

namespace Begun

/-- Between two characters. -/
def nothing : Begun := ⟨0, []⟩

/-- Reads a first byte: the text that ends with it, and what is begun. -/
def first (b : Nat) : Text × Begun :=
  if b < 0x80 then ([Char.ofNat b], nothing)
  else
    match tailRanges b with
    | [] => ([replacement], nothing)
    | tail => ([], ⟨b % (64 >>> tail.length), tail⟩)

/-- Reads a byte: the text that ends with it, and what is begun.  A byte that does not go on with
the character is read as a first one. -/
def next (p : Begun) (b : Nat) : Text × Begun :=
  match p.tail with
  | [] => first b
  | range :: tail =>
    if range.1 ≤ b ∧ b ≤ range.2 then
      let code := p.code * 64 + b % 64
      if tail = [] then ([Char.ofNat code], nothing) else ([], ⟨code, tail⟩)
    else (replacement :: (first b).1, (first b).2)

/-- The text of the bytes to come. -/
def toText (p : Begun) : List UInt8 → Text
  | [] => if p.tail = [] then [] else [replacement]
  | b :: bs => (p.next b.toNat).1 ++ (p.next b.toNat).2.toText bs

end Begun

/-- The bytes as text, whether or not they are that of one. -/
def lossy (bytes : List UInt8) : Text := Begun.nothing.toText bytes

end EnvAudit.Text
