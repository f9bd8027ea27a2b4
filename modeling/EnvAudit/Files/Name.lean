import EnvAudit.Text.Utf8

/-!
# Names of files

The system names a file by bytes, which need not be those of a text.  A text stands for the name
with its bytes.  What asks for a name as text goes without one where there is none, and what shows a
name shows something in any case.
-/

namespace EnvAudit

structure FileName where
  bytes : List UInt8
deriving DecidableEq

namespace FileName

def ofText (t : Text) : FileName := ⟨t.bytes⟩

instance : Coe Text FileName := ⟨ofText⟩

/-- The name as text, if it is one. -/
def toText? (n : FileName) : Option Text := Text.ofUtf8? n.bytes.toByteArray

/-- The name as it is shown. -/
def shown (n : FileName) : Text := Text.lossy n.bytes

/-- The part of a name behind its last dot; a name that only starts with a dot has none. -/
def extension? (n : FileName) : Option FileName :=
  let notDot := fun b : UInt8 => b != 0x2E
  match n.bytes.reverse.dropWhile notDot with
  | [] | [_] => none
  | _ => some ⟨(n.bytes.reverse.takeWhile notDot).reverse⟩

/-- Names in the order of their bytes. -/
def comesBefore (a b : FileName) : Bool := !decide (b.bytes < a.bytes)

end FileName

end EnvAudit
