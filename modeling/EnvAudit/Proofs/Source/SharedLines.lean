import EnvAudit.Proofs.Source.LineEnds
import EnvAudit.Proofs.Source.Occurrence

/-!
# The lines of usages and of secrets

Usages are looked for on the rows of a file and secrets on its lines, and a usage is given its line
by the table of row beginnings.  All three number a file alike: a row is the line of its number,
perhaps with a carriage return more, the table has the beginning of every row, and a line is
suppressed for usages just if it is for secrets (`usages_and_secrets_share_lines`).
-/

namespace EnvAudit

namespace Text

/-! ## 1. Rows and lines -/

theorem exists_getElem?_of_endLines {rs : List Text} {line : Text} {i : Nat}
    (h : (endLines rs)[i]? = some line) : ∃ row, rs[i]? = some row ∧ GainsReturn line row := by
  fun_induction endLines rs generalizing i with
  | case1 => cases h
  | case2 row hempty => cases h
  | case3 row hempty =>
    -- the last row is kept as it is
    exact ⟨line, h, Or.inl rfl⟩
  | case4 row rows hrows ih =>
    cases i with
    | zero =>
      obtain rfl : dropReturn row = line := Option.some.inj h
      exact ⟨row, rfl, gainsReturn_dropReturn row⟩
    | succ i => exact ih h

/-- The rows are the lines and perhaps one more, on which nothing stands. -/
theorem length_rows_eq_or (s : Text) :
    (rows s).length = (lines s).length
      ∨ (rows s).length = (lines s).length + 1 ∧ (rows s).getLast? = some [] := by
  have hends (rs : List Text) :
      rs.length = (endLines rs).length
        ∨ rs.length = (endLines rs).length + 1 ∧ rs.getLast? = some [] := by
    fun_induction endLines rs with
    | case1 => exact Or.inl rfl
    | case2 row hempty => exact Or.inr ⟨rfl, congrArg some (List.isEmpty_iff.mp hempty)⟩
    | case3 row hempty => exact Or.inl rfl
    | case4 row rows hrows ih =>
      obtain ⟨next, rest, rfl⟩ := List.exists_cons_of_ne_nil fun hnil => hrows hnil
      rw [List.length_cons, List.length_cons, List.getLast?_cons_cons]
      exact ih.imp (congrArg (· + 1)) (And.imp_left (congrArg (· + 1)))
  exact hends (rows s)

/-! ## 2. The table of row beginnings -/

/-- The text falls into three parts, the middle one of which is the row with this index. -/
structure HasRowAt (s : Text) (i : Nat) (before row after : Text) : Prop where
  eq_append : s = before ++ (row ++ after)
  count_eq : before.count '\n' = i
  begins : before = [] ∨ before.getLast? = some '\n'
  ends : after = [] ∨ after.head? = some '\n'

theorem eq_nil_or_getLast?_of_lastRow {s : Text} (h : lastRow s = []) :
    s = [] ∨ s.getLast? = some '\n' := by
  rcases s.eq_nil_or_concat with rfl | ⟨front, c, rfl⟩
  · exact Or.inl rfl
  · rw [List.concat_eq_append] at h ⊢
    by_cases hc : c = '\n'
    · rw [hc, List.getLast?_concat]
      exact Or.inr rfl
    · have hnone : '\n' ∉ [c] := by simpa using Ne.symm hc
      rw [lastRow_append hnone] at h
      exact absurd h (List.append_ne_nil_of_right_ne_nil _ (List.cons_ne_nil c []))

theorem eq_nil_or_head?_of_takeWhile {s : Text} (h : s.takeWhile (· ≠ '\n') = []) :
    s = [] ∨ s.head? = some '\n' := by
  cases s with
  | nil => exact Or.inl rfl
  | cons c s =>
    by_cases hc : c = '\n'
    · exact Or.inr (congrArg some hc)
    · rw [List.takeWhile_cons_of_pos (by simpa using hc)] at h
      cases h

/-- The entry of a row in the table is the number of bytes before the row. -/
theorem exists_hasRowAt {s row : Text} {i : Nat} (h : (rows s)[i]? = some row) :
    ∃ before after, s.HasRowAt i before row after
      ∧ (rowStarts s)[i]? = some (byteLength before) := by
  have hplace : (rows s)[i]? = some (row ++ []) := by rw [List.append_nil, h]
  -- the place at the end of the row, and what stands before the row
  obtain ⟨front, after, rfl, rfl, hlast, hafter⟩ := exists_place_of_rows hplace
  obtain ⟨before, hfront, hstart⟩ := exists_rowStarts_getElem? front
  rw [hlast] at hfront
  have hnone : '\n' ∉ row := newline_not_mem_of_mem_rows (List.mem_of_getElem? h)
  have hcount : before.count '\n' = front.count '\n' := by
    rw [hfront, List.count_append, List.count_eq_zero_of_not_mem hnone, Nat.add_zero]
  have hbefore : lastRow before = [] := by
    rw [hfront, lastRow_append hnone] at hlast
    exact List.append_left_eq_self.mp hlast
  refine ⟨before, after, ⟨?_, hcount, eq_nil_or_getLast?_of_lastRow hbefore,
    eq_nil_or_head?_of_takeWhile hafter⟩, ?_⟩
  · rw [← List.append_assoc, ← hfront]
  · rw [rowStarts_append, List.getElem?_append_left (by rw [length_rowStarts]; omega), hstart]

end Text

/-! ## 3. Suppressed lines -/

theorem isMarkedRow_lines {content : Text} {i : Nat} (hi : i < (Text.lines content).length) :
    isMarkedRow (Text.lines content) i = isMarkedRow (Text.rows content) i := by
  have hline := List.getElem?_eq_getElem hi
  obtain ⟨row, hrow, hreturn⟩ := Text.exists_getElem?_of_endLines hline
  rw [isMarkedRow, isMarkedRow, hline, hrow]
  rcases hreturn with rfl | rfl
  · rfl
  · exact (hasIgnoreMarker_withReturn _).symm

/-- The ignore marker is looked for on the same two lines, and a return more hides none. -/
theorem isIgnoredRow_lines {content : Text} {i : Nat} (hi : i < (Text.lines content).length) :
    isIgnoredRow (Text.lines content) i = isIgnoredRow (Text.rows content) i := by
  have habove : isMarkedAbove false (Text.lines content) i
      = isMarkedAbove false (Text.rows content) i := by
    cases i with
    | zero => rfl
    | succ i => exact isMarkedRow_lines (Nat.lt_of_succ_lt hi)
  rw [isIgnoredRow, isIgnoredRow, habove, isMarkedRow_lines hi]

theorem mem_numberLines_and_number_eq {ls : List Text} {i : Nat} {text : Text}
    (h : ls[i]? = some text) {line : SourceLine} :
    line ∈ numberLines ls ∧ line.number = i + 1 ↔ line = ⟨i + 1, text, isIgnoredRow ls i⟩ := by
  rw [mem_numberLines]
  constructor
  · rintro ⟨⟨j, text', htext, rfl⟩, hnumber⟩
    obtain rfl : j = i := Nat.succ.inj hnumber
    rw [h] at htext
    cases htext
    rfl
  · rintro rfl
    exact ⟨⟨i, text, h, rfl⟩, rfl⟩

/-- The usages with a line's number are those on its row, or none if the row is ignored. -/
theorem mem_scanUsages_and_line_eq {file content row : Text} {i : Nat}
    (h : (Text.rows content)[i]? = some row) {u : Usage} :
    u ∈ scanUsages file content ∧ u.line = i + 1
      ↔ isIgnoredRow (Text.rows content) i = false
        ∧ ∃ form, u ∈ usagesOnLine file form ⟨i + 1, row, false⟩ := by
  have hnumber {form : AccessForm} {line : SourceLine} (hu : u ∈ usagesOnLine file form line) :
      u.line = line.number := by
    obtain ⟨_, -, rfl⟩ := List.mem_map.mp hu
    rfl
  have hform (form : AccessForm) :
      form ∈ [AccessForm.processEnv, .importMetaEnv, .svelteModule] := by
    cases form <;> decide
  simp only [scanUsages, usagesOfForm, List.mem_flatMap, List.mem_filter, Bool.not_eq_true']
  constructor
  · rintro ⟨⟨form, -, line, ⟨hline, hkept⟩, hu⟩, hi⟩
    obtain rfl := (mem_numberLines_and_number_eq h).mp ⟨hline, (hnumber hu).symm.trans hi⟩
    dsimp only at hkept
    rw [hkept] at hu
    exact ⟨hkept, form, hu⟩
  · rintro ⟨hkept, form, hu⟩
    have hline := ((mem_numberLines_and_number_eq h).mpr rfl).1
    rw [hkept] at hline
    exact ⟨⟨form, hform form, _, ⟨hline, rfl⟩, hu⟩, hnumber hu⟩

/-- The secret with a line's number is the one on it, and there is none if the line is ignored. -/
theorem mem_sourceSecrets_and_line_eq {limits : SecretLimits} {file content line : Text} {i : Nat}
    (h : (Text.lines content)[i]? = some line) {s : SourceSecret} :
    s ∈ sourceSecrets limits file content ∧ s.line = i + 1
      ↔ isIgnoredRow (Text.lines content) i = false
        ∧ secretOnLine? limits file ⟨i + 1, line, false⟩ = some s := by
  have hnumber {l : SourceLine} (hs : secretOnLine? limits file l = some s) :
      l.suppressed = false ∧ s.line = l.number := by
    unfold secretOnLine? secretOnLineBy? at hs
    split at hs
    next => cases hs
    next hkept =>
      obtain ⟨_, -, rfl⟩ := Option.map_eq_some_iff.mp hs
      exact ⟨Bool.eq_false_iff.mpr hkept, rfl⟩
  simp only [sourceSecrets, sourceSecretsBy, List.mem_filterMap]
  constructor
  · rintro ⟨⟨l, hl, hs⟩, hi⟩
    obtain rfl := (mem_numberLines_and_number_eq h).mp ⟨hl, (hnumber hs).2.symm.trans hi⟩
    have hkept := (hnumber hs).1
    dsimp only at hkept
    rw [hkept] at hs
    exact ⟨hkept, hs⟩
  · rintro ⟨hkept, hs⟩
    have hl := ((mem_numberLines_and_number_eq h).mpr rfl).1
    rw [hkept] at hl
    exact ⟨⟨_, hl, hs⟩, (hnumber hs).2⟩

/-! ## 4. One numbering -/

/-- Every row has one entry in the table of row beginnings, which is its offset in the text, and the
usages in a file are those that the table places.  A line is the row of its number, up to one
carriage return at the end; only an empty last row has no line.  Rows and lines agree on which of
them are ignored, and the usages and the secrets with a line's number are those found on it if it
is not, and none otherwise. -/
theorem usages_and_secrets_share_lines (limits : SecretLimits) (file content : Text) :
    ((Text.rowStarts content).length = (Text.rows content).length
        ∧ (∀ i row, (Text.rows content)[i]? = some row →
            ∃ before after, content.HasRowAt i before row after
              ∧ (Text.rowStarts content)[i]? = some (Text.byteLength before))
        ∧ scanByTable? file content = some (scanUsages file content))
      ∧ ((Text.rows content).length = (Text.lines content).length
          ∨ (Text.rows content).length = (Text.lines content).length + 1
            ∧ (Text.rows content).getLast? = some [])
      ∧ ∀ i line, (Text.lines content)[i]? = some line →
          ∃ row, (Text.rows content)[i]? = some row
            ∧ (row = line ∨ row = line ++ ['\r'])
            ∧ isIgnoredRow (Text.rows content) i = isIgnoredRow (Text.lines content) i
            ∧ (∀ u, u ∈ scanUsages file content ∧ u.line = i + 1
                ↔ isIgnoredRow (Text.lines content) i = false
                  ∧ ∃ form, u ∈ usagesOnLine file form ⟨i + 1, row, false⟩)
            ∧ ∀ s, s ∈ sourceSecrets limits file content ∧ s.line = i + 1
                ↔ isIgnoredRow (Text.lines content) i = false
                  ∧ secretOnLine? limits file ⟨i + 1, line, false⟩ = some s := by
  refine ⟨⟨?_, fun i row => Text.exists_hasRowAt, scanByTable?_eq file content⟩,
    Text.length_rows_eq_or content, fun i line hline => ?_⟩
  · rw [Text.length_rowStarts, Text.length_rows]
  · obtain ⟨row, hrow, hreturn⟩ := Text.exists_getElem?_of_endLines hline
    have hignored := isIgnoredRow_lines (List.getElem?_eq_some_iff.mp hline).1
    refine ⟨row, hrow, hreturn, hignored.symm, fun u => ?_, fun s => ?_⟩
    · rw [hignored]
      exact mem_scanUsages_and_line_eq hrow
    · exact mem_sourceSecrets_and_line_eq hline

end EnvAudit
