import EnvAudit.Text.Basic
import EnvAudit.Unicode.Casing
import EnvAudit.Unicode.Letters

/-!
# Letter case of texts

Upper and lower case of a whole text.  Lower case looks at the neighbours in one place only: a
capital sigma that ends a word becomes the final form.
-/

namespace EnvAudit.Text

def upper (s : Text) : Text := s.flatMap Unicode.upperChar

/-- Whether the first character that case rules do not pass over is a cased one. -/
def meetsCased (s : Text) : Bool :=
  match s.dropWhile Unicode.passedOverInText.contains with
  | [] => false
  | c :: _ => Unicode.casedInText.contains c

/-- A capital sigma ends a word if a cased character stands before it and none after it. -/
def lowerSigma (before after : Text) : Char :=
  if meetsCased before && !meetsCased after then 'ς' else 'σ'

/-- Lower case of what follows `before`, which is given last character first. -/
def lowerAfter (before : Text) : Text → Text
  | [] => []
  | c :: s =>
    if c = 'Σ' then lowerSigma before s :: lowerAfter (c :: before) s
    else Unicode.lowerChar c ++ lowerAfter (c :: before) s

def lower (s : Text) : Text := lowerAfter [] s

end EnvAudit.Text
