import Mathlib.Data.List.Induction
import Mathlib.Data.List.TakeWhile
import EnvAudit.Proofs.Text.Pieces
import EnvAudit.Text.Lines

/-!
# Rows and places

A place in a text is given by what stands before it.  Its row is the number of line feeds before
it, its column the number of characters since the last one.  `rows_getElem?_append` says what
stands on the row of a place, `exists_place_of_rows` that every split of a row is a place of the
text, and `place_lt` that places further on have a later row or a later column.  `rows_insertRow`
and `exists_lines_insertRow` say what becomes of the rows and of the lines when a row is put between
them, and `lines_flatMap_newline` what the lines of a text are that is written line by line.
-/

namespace EnvAudit.Text

/-! ## 1. The rows of a text -/

theorem length_rows (s : Text) : (rows s).length = s.count '\n' + 1 := by
  induction s with
  | nil => rfl
  | cons c s ih =>
    unfold rows at ih ⊢
    unfold pieces
    by_cases hc : c = '\n'
    · rw [if_pos hc, List.length_cons, ih, hc, List.count_cons_self]
    · rw [if_neg hc, List.count_cons_of_ne hc, ← ih]
      cases hp : pieces '\n' s with
      | nil => exact absurd hp (pieces_ne_nil '\n' s)
      | cons p ps => rfl

theorem rows_newline (s : Text) : rows ('\n' :: s) = [] :: rows s := rfl

theorem rows_cons {c : Char} (hc : c ≠ '\n') {s p : Text} {ps : List Text}
    (hs : rows s = p :: ps) : rows (c :: s) = (c :: p) :: ps :=
  pieces_cons hc hs

theorem exists_rows_eq_cons (s : Text) : ∃ ps, rows s = s.takeWhile (· ≠ '\n') :: ps := by
  induction s with
  | nil => exact ⟨[], rfl⟩
  | cons c s ih =>
    rcases ih with ⟨ps, hps⟩
    by_cases hc : c = '\n'
    · subst hc
      exact ⟨rows s, rfl⟩
    · refine ⟨ps, ?_⟩
      rw [rows_cons hc hps, List.takeWhile_cons_of_pos (by simpa using hc)]

theorem rows_append_newline (s t : Text) : rows (s ++ '\n' :: t) = rows s ++ rows t :=
  pieces_append '\n' s t

/-! ## 2. The row of a place -/

/-- What stands after the last line feed. -/
def lastRow (s : Text) : Text := (s.reverse.takeWhile (· ≠ '\n')).reverse

theorem lastRow_append_newline (s t : Text) : lastRow (s ++ '\n' :: t) = lastRow t := by
  unfold lastRow
  rw [List.reverse_append, List.reverse_cons, List.append_assoc, List.takeWhile_append]
  -- the run from the end stops at the line feed unless it stops before
  split
  · next hall =>
    have hself := (List.takeWhile_prefix (p := (· ≠ '\n')) (l := t.reverse)).eq_of_length hall
    rw [List.singleton_append, List.takeWhile_cons_of_neg (by decide), List.append_nil, hself]
  · rfl

theorem lastRow_append {w : Text} (hw : '\n' ∉ w) (s : Text) :
    lastRow (s ++ w) = lastRow s ++ w := by
  have hall : ∀ c ∈ w.reverse, decide (c ≠ '\n') = true := by
    intro c hc
    rw [List.mem_reverse] at hc
    exact decide_eq_true (ne_of_mem_of_not_mem hc hw)
  unfold lastRow
  rw [List.reverse_append, List.takeWhile_append_of_pos hall, List.reverse_append,
    List.reverse_reverse]

theorem takeWhile_append_of_not_mem {w : Text} (hw : '\n' ∉ w) (s : Text) :
    (w ++ s).takeWhile (· ≠ '\n') = w ++ s.takeWhile (· ≠ '\n') :=
  List.takeWhile_append_of_pos fun _ hc => decide_eq_true (ne_of_mem_of_not_mem hc hw)

/-- A split of the first row is a split of the text. -/
theorem exists_of_takeWhile_eq_append {s front back : Text}
    (h : s.takeWhile (· ≠ '\n') = front ++ back) :
    '\n' ∉ front ∧ ∃ after, s = front ++ after ∧ after.takeWhile (· ≠ '\n') = back := by
  have hnone : '\n' ∉ front := by
    intro hmem
    have hkept := List.mem_takeWhile_imp (h ▸ List.mem_append_left back hmem)
    exact of_decide_eq_true hkept rfl
  have hs : s = front ++ (back ++ s.dropWhile (· ≠ '\n')) := by
    rw [← List.append_assoc, ← h, List.takeWhile_append_dropWhile]
  refine ⟨hnone, back ++ s.dropWhile (· ≠ '\n'), hs, ?_⟩
  rw [hs, takeWhile_append_of_not_mem hnone] at h
  exact List.append_cancel_left h

/-- On the row of a place stands what goes before it since the last line feed, and what comes up to
the next one. -/
theorem rows_getElem?_append (before after : Text) :
    (rows (before ++ after))[before.count '\n']?
      = some (lastRow before ++ after.takeWhile (· ≠ '\n')) := by
  -- by the last character before the place, which ends a row or stands on the row of the place
  induction before using List.reverseRecOn generalizing after with
  | nil =>
    rcases exists_rows_eq_cons after with ⟨ps, hps⟩
    rw [List.nil_append, hps]
    rfl
  | append_singleton before c ih =>
    rw [List.append_assoc, List.singleton_append]
    by_cases hc : c = '\n'
    · subst hc
      rcases exists_rows_eq_cons after with ⟨ps, hps⟩
      rw [rows_append_newline, hps, lastRow_append_newline, List.count_append,
        List.count_singleton_self, ← length_rows, List.getElem?_append_right (Nat.le_refl _),
        Nat.sub_self]
      rfl
    · have hnone : '\n' ∉ [c] := by simpa using Ne.symm hc
      rw [List.count_append, List.count_eq_zero_of_not_mem hnone, Nat.add_zero, ih,
        lastRow_append hnone, List.append_assoc, ← takeWhile_append_of_not_mem hnone]
      rfl

/-- Every split of a row comes from a split of the text. -/
theorem exists_place_of_rows {s front back : Text} {i : Nat}
    (h : (rows s)[i]? = some (front ++ back)) :
    ∃ before after, s = before ++ after ∧ before.count '\n' = i ∧ lastRow before = front
      ∧ after.takeWhile (· ≠ '\n') = back := by
  induction i generalizing s with
  | zero =>
    rcases exists_rows_eq_cons s with ⟨ps, hps⟩
    rw [hps] at h
    rcases exists_of_takeWhile_eq_append (Option.some.inj h) with ⟨hnone, after, rfl, hafter⟩
    exact ⟨front, after, rfl, List.count_eq_zero_of_not_mem hnone, lastRow_append hnone [], hafter⟩
  | succ i ih =>
    have hlength := (List.getElem?_eq_some_iff.mp h).1
    rw [length_rows] at hlength
    have hmem : '\n' ∈ s := List.count_pos_iff.mp (by omega)
    -- the text up to its first line feed is the first row, the other rows are those of the rest
    rcases List.eq_append_cons_of_mem hmem with ⟨first, rest, rfl, hfirst⟩
    have hone : (rows first).length = 1 := by
      rw [length_rows, List.count_eq_zero_of_not_mem hfirst]
    rw [rows_append_newline, List.getElem?_append_right (by omega), hone] at h
    rcases ih h with ⟨before, after, rfl, hcount, hlast, hafter⟩
    refine ⟨first ++ '\n' :: before, after, ?_, ?_, ?_, hafter⟩
    · rw [List.append_assoc, List.cons_append]
    · rw [List.count_append, List.count_eq_zero_of_not_mem hfirst, List.count_cons_self, hcount,
        Nat.zero_add]
    · rw [lastRow_append_newline, hlast]

/-! ## 3. Lines and columns -/

/-- The line of the place after a text, counted from 1. -/
def lineAfter (before : Text) : Nat := before.count '\n' + 1

/-- The column of the place after a text, counted from 1. -/
def columnAfter (before : Text) : Nat := (lastRow before).length + 1

/-- A place further on is on a later line, or in a later column of the same line. -/
theorem place_lt (before : Text) {w : Text} (hw : w ≠ []) :
    lineAfter before < lineAfter (before ++ w)
      ∨ lineAfter before = lineAfter (before ++ w)
        ∧ columnAfter before < columnAfter (before ++ w) := by
  unfold lineAfter columnAfter
  by_cases hmem : '\n' ∈ w
  · have hpos := List.count_pos_iff.mpr hmem
    rw [List.count_append]
    exact Or.inl (by omega)
  · have hpos := List.length_pos_iff.mpr hw
    rw [List.count_append, List.count_eq_zero_of_not_mem hmem, lastRow_append hmem,
      List.length_append]
    exact Or.inr (by omega)

/-! ## 4. A row put between the others -/

/-- The text with one more row, which stands above the row with this index. -/
def insertRow (n : Nat) (row s : Text) : Text :=
  glue ['\n'] ((rows s).take n ++ row :: (rows s).drop n)

theorem newline_not_mem_of_mem_rows {s row : Text} (h : row ∈ rows s) : '\n' ∉ row :=
  sep_not_mem_of_mem_pieces h

theorem rows_eq_singleton {s : Text} (h : '\n' ∉ s) : rows s = [s] := pieces_eq_singleton h

theorem rows_insertRow {row : Text} (hrow : '\n' ∉ row) (n : Nat) (s : Text) :
    rows (insertRow n row s) = (rows s).take n ++ row :: (rows s).drop n := by
  refine pieces_glue (List.append_ne_nil_of_right_ne_nil _ (List.cons_ne_nil _ _)) ?_
  intro other hother
  rcases List.mem_append.mp hother with hother | hother
  · exact newline_not_mem_of_mem_rows (List.mem_of_mem_take hother)
  · rcases List.mem_cons.mp hother with rfl | hother
    · exact hrow
    · exact newline_not_mem_of_mem_rows (List.mem_of_mem_drop hother)

/-- All rows but the last have a line end. -/
theorem endLines_append (above : List Text) {below : List Text} (h : below ≠ []) :
    endLines (above ++ below) = above.map dropReturn ++ endLines below := by
  induction above with
  | nil => rfl
  | cons row above ih =>
    have hne : above ++ below ≠ [] := List.append_ne_nil_of_right_ne_nil _ h
    rw [List.cons_append, endLines, ih, List.map_cons, List.cons_append]
    exact hne

theorem exists_lines_insertRow {row : Text} (hrow : '\n' ∉ row) {n : Nat} {s : Text}
    (hn : n < (rows s).length) :
    ∃ above below, above.length = n ∧ lines s = above ++ below
      ∧ lines (insertRow n row s) = above ++ dropReturn row :: below := by
  have hbelow : (rows s).drop n ≠ [] := by
    rw [Ne, List.drop_eq_nil_iff]
    omega
  -- the rows above keep their line ends, and the rows below are the same in both texts
  refine ⟨((rows s).take n).map dropReturn, endLines ((rows s).drop n), ?_, ?_, ?_⟩
  · rw [List.length_map, List.length_take]
    omega
  · rw [← endLines_append _ hbelow, List.take_append_drop, lines_eq_rows]
  · have hnew : endLines (row :: (rows s).drop n) = dropReturn row :: endLines ((rows s).drop n) :=
      endLines_append [row] hbelow
    rw [lines_eq_rows, rows_insertRow hrow, endLines_append _ (List.cons_ne_nil _ _), hnew]

/-! ## 5. What a line holds -/

theorem dropReturn_sublist (l : Text) : (dropReturn l).Sublist l := by
  rw [dropReturn]
  split
  · exact List.dropLast_sublist l
  · exact List.Sublist.refl l

/-- A line is what a row holds, with or without its last character. -/
theorem exists_sublist_of_mem_endLines {rs : List Text} {line : Text} (h : line ∈ endLines rs) :
    ∃ row ∈ rs, line.Sublist row := by
  fun_induction endLines rs with
  | case1 => exact absurd h List.not_mem_nil
  | case2 row hempty => exact absurd h List.not_mem_nil
  | case3 row hempty => exact ⟨row, List.mem_cons_self, List.mem_singleton.mp h ▸ .refl line⟩
  | case4 row rows hrows ih =>
    rcases List.mem_cons.mp h with rfl | h
    · exact ⟨row, List.mem_cons_self, dropReturn_sublist row⟩
    · rcases ih h with ⟨row', hmem, hsub⟩
      exact ⟨row', List.mem_cons_of_mem _ hmem, hsub⟩

theorem newline_not_mem_of_mem_lines {s line : Text} (h : line ∈ lines s) : '\n' ∉ line := by
  rcases exists_sublist_of_mem_endLines h with ⟨row, hrow, hsub⟩
  exact fun hmem => newline_not_mem_of_mem_rows hrow (hsub.subset hmem)

theorem rows_flatMap_newline {ls : List Text} (h : ∀ l ∈ ls, '\n' ∉ l) :
    rows (ls.flatMap fun l => l ++ ['\n']) = ls ++ [[]] := by
  induction ls with
  | nil => rfl
  | cons l ls ih =>
    rw [List.forall_mem_cons] at h
    rw [List.flatMap_cons, List.append_assoc, List.singleton_append, rows_append_newline,
      rows_eq_singleton h.1, ih h.2]
    rfl

/-- Lines that are each ended by a line feed are the lines of the text, but for a return at the end
of a line. -/
theorem lines_flatMap_newline {ls : List Text} (h : ∀ l ∈ ls, '\n' ∉ l) :
    lines (ls.flatMap fun l => l ++ ['\n']) = ls.map dropReturn := by
  rw [lines_eq_rows, rows_flatMap_newline h, endLines_append ls (List.cons_ne_nil _ _)]
  exact List.append_nil _

end EnvAudit.Text
