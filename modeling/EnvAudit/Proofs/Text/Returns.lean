import Mathlib.Data.List.Forall2
import EnvAudit.Proofs.Text.Rows
import EnvAudit.Proofs.Text.Trim

/-!
# Carriage returns at line ends

`crlf` puts a carriage return before every line feed, and `withReturn` puts one at the end of a
line.  The rows and the lines of a text with `crlf` are those it had, each the same or with a return
at its end: `forall₂_rows_crlf` and `forall₂_lines_crlf`.
-/

namespace EnvAudit.Text

/-! ## 1. Returns at line ends -/

/-- The text with a carriage return before every line feed. -/
def crlf (s : Text) : Text := s.flatMap fun c => if c = '\n' then ['\r', '\n'] else [c]

/-- The line with a carriage return at its end. -/
def withReturn (l : Text) : Text := l ++ ['\r']

/-- The second line is the first one, perhaps with a carriage return at its end. -/
def GainsReturn (l l' : Text) : Prop := l' = l ∨ l' = withReturn l

theorem crlf_newline (s : Text) : crlf ('\n' :: s) = '\r' :: '\n' :: crlf s := rfl

theorem crlf_cons {c : Char} (hc : c ≠ '\n') (s : Text) : crlf (c :: s) = c :: crlf s := by
  rw [crlf, List.flatMap_cons, if_neg hc]
  rfl

theorem withReturn_cons (c : Char) (s : Text) : withReturn (c :: s) = c :: withReturn s := rfl

theorem dropReturn_withReturn (l : Text) : dropReturn (withReturn l) = l := by
  rw [dropReturn, withReturn, if_pos List.getLast?_concat, List.dropLast_concat]

theorem gainsReturn_dropReturn (l : Text) : GainsReturn (dropReturn l) l := by
  rw [dropReturn]
  split
  next hlast => exact Or.inr (List.dropLast_append_getLast? _ hlast).symm
  next => exact Or.inl rfl

theorem trim_withReturn (l : Text) : trim (withReturn l) = trim l := by
  show ((withReturn l).dropWhile isBlank).rdropWhile isBlank
    = (l.dropWhile isBlank).rdropWhile isBlank
  rw [withReturn, List.dropWhile_append]
  split
  next hall =>
    rw [List.isEmpty_iff.mp hall]
    rfl
  next => exact List.rdropWhile_concat_pos isBlank _ _ rfl

theorem trim_eq_of_gainsReturn {l l' : Text} (h : GainsReturn l l') : trim l' = trim l := by
  rcases h with rfl | rfl
  · rfl
  · exact trim_withReturn l

/-! ## 2. Rows and lines -/

/-- Every row but the last with a carriage return. -/
def returnRows : List Text → List Text
  | [] => []
  | [l] => [l]
  | l :: ls => withReturn l :: returnRows ls

theorem returnRows_cons (l : Text) {ls : List Text} (h : ls ≠ []) :
    returnRows (l :: ls) = withReturn l :: returnRows ls := by
  cases ls with
  | nil => exact absurd rfl h
  | cons l' ls => rfl

theorem rows_ne_nil (s : Text) : rows s ≠ [] := pieces_ne_nil '\n' s

theorem rows_crlf (s : Text) : rows (crlf s) = returnRows (rows s) := by
  induction s with
  | nil => rfl
  | cons c s ih =>
    by_cases hc : c = '\n'
    · subst hc
      have hreturn : rows ['\r'] = [['\r']] := rows_eq_singleton (by decide)
      have hsplit := rows_append_newline ['\r'] (crlf s)
      rw [crlf_newline, rows_newline, returnRows_cons _ (rows_ne_nil s), ← ih]
      rwa [hreturn] at hsplit
    · rcases exists_rows_eq_cons s with ⟨ps, hps⟩
      rw [crlf_cons hc, rows_cons hc hps]
      rw [hps] at ih
      cases ps with
      | nil => exact rows_cons hc ih
      | cons p ps => exact rows_cons hc ih

theorem forall₂_returnRows (rs : List Text) : List.Forall₂ GainsReturn rs (returnRows rs) := by
  fun_induction returnRows rs with
  | case1 => exact .nil
  | case2 l => exact .cons (Or.inl rfl) .nil
  | case3 l ls hls ih => exact .cons (Or.inr rfl) ih

theorem forall₂_rows_crlf (s : Text) :
    List.Forall₂ GainsReturn (rows s) (rows (crlf s)) := by
  rw [rows_crlf]
  exact forall₂_returnRows (rows s)

/-- A row that gains a return keeps as a line what it had as a row. -/
theorem forall₂_endLines_returnRows (rs : List Text) :
    List.Forall₂ GainsReturn (endLines rs) (endLines (returnRows rs)) := by
  fun_induction returnRows rs with
  | case1 => exact .nil
  | case2 l =>
    rw [endLines]
    split
    next => exact .nil
    next => exact .cons (Or.inl rfl) .nil
  | case3 l ls hls ih =>
    have hne : ls ≠ [] := by
      rintro rfl
      exact hls rfl
    have hne' : returnRows ls ≠ [] := by
      intro hnil
      have hlength := (forall₂_returnRows ls).length_eq
      rw [hnil, List.length_nil] at hlength
      exact hne (List.length_eq_zero_iff.mp hlength)
    have hline := endLines_append [l] hne
    have hline' := endLines_append [withReturn l] hne'
    rw [List.map_singleton, List.singleton_append] at hline hline'
    rw [List.singleton_append] at hline hline'
    rw [hline, hline', dropReturn_withReturn]
    exact .cons (gainsReturn_dropReturn l) ih

theorem forall₂_lines_crlf (s : Text) :
    List.Forall₂ GainsReturn (lines s) (lines (crlf s)) := by
  rw [lines_eq_rows, lines_eq_rows, rows_crlf]
  exact forall₂_endLines_returnRows (rows s)

end EnvAudit.Text
