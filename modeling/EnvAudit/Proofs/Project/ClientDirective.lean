import EnvAudit.Project.Framework
import EnvAudit.Proofs.Env.AnnotationText
import EnvAudit.Proofs.Text.Rows
import EnvAudit.Proofs.Text.Trim

/-!
# The directive of client components

The directive is looked for with white space around it, which may reach across line ends: it may
begin at the start of a blank line above and go on into the lines below.  All the same the search
finds just the rows that hold nothing but the directive (`isClientComponent_iff_exists_row`).
-/

namespace EnvAudit

/-! ## 1. The directive -/

/-- `use client` between two quotes, and perhaps a semicolon. -/
def IsClientWords (s : Text) : Prop :=
  ∃ opening closing mark, s = opening :: ("use client".toList ++ closing :: mark)
    ∧ isPlainQuote opening ∧ isPlainQuote closing ∧ (mark = [] ∨ mark = [';'])

theorem not_isBlank_of_isPlainQuote {c : Char} (h : isPlainQuote c) : isBlank c = false := by
  rw [isPlainQuote, Bool.or_eq_true, beq_iff_eq, beq_iff_eq] at h
  rcases h with rfl | rfl <;> decide

theorem newline_not_mem_of_isClientWords {s : Text} (h : IsClientWords s) : '\n' ∉ s := by
  obtain ⟨opening, closing, mark, rfl, hopening, hclosing, hmark⟩ := h
  have hquote {c : Char} (hc : isPlainQuote c) : '\n' ≠ c := by
    rintro rfl
    exact absurd hc (by decide)
  simp only [List.mem_cons, List.mem_append, not_or]
  refine ⟨hquote hopening, by decide, hquote hclosing, ?_⟩
  rcases hmark with rfl | rfl <;> decide

theorem IsClientWords.trim_eq {s : Text} (h : IsClientWords s) : Text.trim s = s := by
  obtain ⟨opening, closing, mark, rfl, hopening, hclosing, hmark⟩ := h
  refine Text.trim_eq_self_iff.mpr ⟨?_, ?_⟩
  · intro c hc
    cases hc
    exact not_isBlank_of_isPlainQuote hopening
  · rcases hmark with rfl | rfl
    · rw [← List.cons_append, List.getLast?_concat]
      intro c hc
      cases hc
      exact not_isBlank_of_isPlainQuote hclosing
    · have hlast : (opening :: ("use client".toList ++ [closing, ';'])).getLast? = some ';' := by
        rw [← List.cons_append, List.getLast?_append]
        rfl
      rw [hlast]
      intro c hc
      cases hc
      decide

/-! ## 2. Ends of lines -/

theorem endsLine_iff {s : Text} : endsLine s ↔ ∀ c ∈ s.takeWhile (· ≠ '\n'), isBlank c := by
  induction s with
  | nil => simp [endsLine]
  | cons c s ih =>
    rw [endsLine, Bool.or_eq_true, Bool.and_eq_true, ih]
    by_cases hc : c = '\n'
    · simp [hc]
    · simp [hc]

theorem startsLine_getLast?_iff {before : Text} :
    startsLine before.getLast? ↔ Text.lastRow before = [] := by
  obtain rfl | ⟨front, c, rfl⟩ := before.eq_nil_or_concat
  · exact iff_of_true rfl rfl
  · rw [List.concat_eq_append, List.getLast?_concat, startsLine, beq_iff_eq]
    by_cases hc : c = '\n'
    · subst hc
      exact iff_of_true rfl (Text.lastRow_append_newline front [])
    · have hnone : '\n' ∉ [c] := by simpa using Ne.symm hc
      rw [Text.lastRow_append hnone]
      simp [hc]

/-- What stands on a row that was empty before a text was written is from the text. -/
theorem mem_of_mem_lastRow_append {s w : Text} (h : Text.lastRow s = []) {c : Char}
    (hc : c ∈ Text.lastRow (s ++ w)) : c ∈ w := by
  induction w using List.reverseRecOn with
  | nil =>
    rw [List.append_nil, h] at hc
    cases hc
  | append_singleton w d ih =>
    rw [← List.append_assoc] at hc
    by_cases hd : d = '\n'
    · subst hd
      rw [Text.lastRow_append_newline (s ++ w) []] at hc
      cases hc
    · have hnone : '\n' ∉ [d] := by simpa using Ne.symm hd
      rw [Text.lastRow_append hnone, List.mem_append] at hc
      exact List.mem_append.mpr (hc.imp_left ih)

/-! ## 3. The search -/

/-- A semicolon may stand before the end of the line. -/
theorem endsLine_dropWord_iff {s : Text} :
    endsLine (Text.dropWord [';'] s)
      ↔ ∃ mark rest, s = mark ++ rest ∧ (mark = [] ∨ mark = [';']) ∧ endsLine rest := by
  constructor
  · intro h
    obtain ⟨mark, hs, hmark⟩ := exists_dropWord [';'] s
    exact ⟨mark, _, hs, hmark, h⟩
  · rintro ⟨mark, rest, rfl, rfl | rfl, h⟩
    · -- what ends a line does not begin with a semicolon
      have hnone : Text.after? [';'] rest = none := by
        cases rest with
        | nil => rfl
        | cons c rest =>
          refine if_neg ?_
          rintro rfl
          exact absurd h (by simp [endsLine, isBlank])
      rwa [List.nil_append, Text.dropWord, hnone]
    · exact h

theorem isClientDirective_iff {before : Option Char} {s : Text} :
    isClientDirective before s
      ↔ startsLine before ∧ ∃ blanks words rest, s = blanks ++ (words ++ rest)
          ∧ (∀ c ∈ blanks, isBlank c) ∧ IsClientWords words ∧ endsLine rest := by
  have hguard {t : Text} {u : Unit} :
      (guard (endsLine (Text.dropWord [';'] t)) : Option Unit) = some u
        ↔ endsLine (Text.dropWord [';'] t) := by
    simp [guard]
  simp only [isClientDirective, Bool.and_eq_true, Option.isSome_iff_exists, Option.bind_eq_bind,
    Option.bind_eq_some_iff, afterOne?_eq_some, Text.after?_eq_some, hguard,
    endsLine_dropWord_iff]
  refine and_congr_right fun _ => ?_
  constructor
  · rintro ⟨-, _, ⟨opening, hopening, hs⟩, _, rfl, _, ⟨closing, hclosing, rfl⟩, mark, rest, rfl,
      hmark, hend⟩
    obtain ⟨blanks, hblanks, hall⟩ := exists_of_dropWhile_eq hs
    refine ⟨blanks, opening :: ("use client".toList ++ closing :: mark), rest, ?_, hall,
      ⟨opening, closing, mark, rfl, hopening, hclosing, hmark⟩, hend⟩
    rw [hblanks]
    simp only [List.cons_append, List.append_assoc]
  · rintro ⟨blanks, _, rest, rfl, hblanks,
      ⟨opening, closing, mark, rfl, hopening, hclosing, hmark⟩, hend⟩
    refine ⟨(), _, ⟨opening, hopening, ?_⟩, _, rfl, _, ⟨closing, hclosing, rfl⟩, mark, rest, rfl,
      hmark, hend⟩
    rw [List.cons_append, dropWhile_append_cons hblanks (not_isBlank_of_isPlainQuote hopening)]
    simp only [List.cons_append, List.append_assoc]

/-- A file is a client component if some row of it, the white space at its ends put aside, is the
directive and nothing else. -/
theorem isClientComponent_iff_exists_row (content : Text) :
    isClientComponent content ↔ ∃ row ∈ Text.rows content, IsClientWords (Text.trim row) := by
  simp only [isClientComponent, Text.occurs_iff, isClientDirective_iff, startsLine_getLast?_iff]
  constructor
  · rintro ⟨before, _, rfl, hstart, blanks, words, rest, rfl, hblanks, hwords, hend⟩
    -- the row of the directive begins in the white space before it and ends in that behind it
    have hrow : Text.lastRow (before ++ blanks) ++ (words ++ rest.takeWhile (· ≠ '\n'))
        ∈ Text.rows (before ++ (blanks ++ (words ++ rest))) := by
      rw [← Text.takeWhile_append_of_not_mem (newline_not_mem_of_isClientWords hwords),
        ← List.append_assoc before]
      exact List.mem_of_getElem? (Text.rows_getElem?_append _ _)
    have hne : words ≠ [] := by
      obtain ⟨opening, closing, mark, rfl, -⟩ := hwords
      exact List.cons_ne_nil _ _
    refine ⟨_, hrow, ?_⟩
    rw [Text.trim_append hne hwords.trim_eq
      (fun c hc => hblanks c (mem_of_mem_lastRow_append hstart hc)) (endsLine_iff.mp hend)]
    exact hwords
  · rintro ⟨row, hrow, hwords⟩
    obtain ⟨i, hi⟩ := List.mem_iff_getElem?.mp hrow
    have hwhole : (Text.rows content)[i]? = some ([] ++ row) := hi
    obtain ⟨before, after, rfl, -, hstart, hafter⟩ := Text.exists_place_of_rows hwhole
    obtain ⟨front, back, htrim, hfront, hback⟩ := Text.exists_trim row
    rw [htrim, ← List.append_assoc] at hafter
    obtain ⟨-, rest, rfl, hrest⟩ := Text.exists_of_takeWhile_eq_append hafter
    refine ⟨before, _, rfl, hstart, front, Text.trim row, rest, List.append_assoc _ _ _, hfront,
      hwords, endsLine_iff.mpr ?_⟩
    rwa [hrest]

end EnvAudit
