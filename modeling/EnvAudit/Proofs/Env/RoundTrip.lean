import EnvAudit.Proofs.Env.Assignment
import EnvAudit.Proofs.Env.Lookup
import EnvAudit.Proofs.Env.Occurrences
import EnvAudit.Proofs.Text.Rows
import EnvAudit.Proofs.Text.Trim

/-!
# Writing an env file

`writeEnv` writes bindings as an env file, one on a line.  What can be written so that it is read
back is `IsWritable`; `parse_writeEnv` says that a file of such bindings, no two of one key, reads
as the same bindings in the same order, and that nothing else is ever read from a file.
-/

namespace EnvAudit

/-! ## 1. Bindings on lines -/

/-- A binding that a line can give: the key is what may stand before the first `=` of a line that is
no comment, and neither key nor value has white space at an end or goes over a line end. -/
structure IsWritable (b : Binding) : Prop where
  key_ne_nil : b.1 ≠ []
  trim_key : Text.trim b.1 = b.1
  equals_not_mem : '=' ∉ b.1
  newline_not_mem_key : '\n' ∉ b.1
  not_comment : b.1.head? ≠ some '#'
  trim_value : Text.trim b.2 = b.2
  newline_not_mem_value : '\n' ∉ b.2

/-- The line that gives a key its value. -/
def writeLine (b : Binding) : Text := b.1 ++ '=' :: b.2

/-- An env file with the bindings, each on a line with a line end. -/
def writeEnv (bs : List Binding) : Text := (bs.map writeLine).flatMap fun l => l ++ ['\n']

/-- The first key does not begin with a byte order mark. -/
def IsUnmarked (bs : List Binding) : Prop := ∀ b ∈ bs.head?, b.1.head? ≠ some '\uFEFF'

/-! ## 2. What is written is read -/

namespace IsWritable

variable {b : Binding}

theorem newline_not_mem_writeLine (h : IsWritable b) : '\n' ∉ writeLine b := by
  rw [writeLine, List.mem_append, List.mem_cons, not_or, not_or]
  exact ⟨h.newline_not_mem_key, by decide, h.newline_not_mem_value⟩

theorem head?_writeLine (h : IsWritable b) : (writeLine b).head? = b.1.head? := by
  rw [writeLine, List.head?_append, List.head?_eq_some_head h.key_ne_nil, Option.some_or]

theorem trim_writeLine (h : IsWritable b) : Text.trim (writeLine b) = writeLine b := by
  rw [Text.trim_eq_self_iff, h.head?_writeLine]
  refine ⟨(Text.trim_eq_self_iff.mp h.trim_key).1, ?_⟩
  -- the line ends with its value, or with the sign if there is none
  intro c hc
  rw [writeLine, List.getLast?_append, List.getLast?_cons, Option.some_or] at hc
  cases hlast : b.2.getLast? with
  | none =>
    rw [hlast] at hc
    cases hc
    decide
  | some d =>
    rw [hlast] at hc
    cases hc
    exact (Text.trim_eq_self_iff.mp h.trim_value).2 d hlast

theorem dropReturn_writeLine (h : IsWritable b) :
    Text.dropReturn (writeLine b) = writeLine b := by
  refine if_neg fun hlast => ?_
  have hblank := (Text.trim_eq_self_iff.mp h.trim_writeLine).2 '\r' hlast
  revert hblank
  decide

theorem assignment?_writeLine (h : IsWritable b) : assignment? (writeLine b) = some b := by
  have hhead : (writeLine b).head? ≠ some '#' := h.head?_writeLine ▸ h.not_comment
  have hkey : b.1.isEmpty = false := by simpa using h.key_ne_nil
  simp only [assignment?]
  rw [h.trim_writeLine, if_neg hhead, writeLine, Text.splitOnce?_append h.equals_not_mem]
  simp only [h.trim_key, h.trim_value, hkey]
  rfl

end IsWritable

/-- A file begins as its first key does. -/
theorem head?_writeEnv {bs : List Binding} (h : ∀ b ∈ bs, IsWritable b) :
    (writeEnv bs).head? = bs.head?.bind fun b => b.1.head? := by
  cases bs with
  | nil => rfl
  | cons b bs =>
    have hb := h b List.mem_cons_self
    have hfile : writeEnv (b :: bs) = writeLine b ++ '\n' :: writeEnv bs :=
      List.append_assoc (writeLine b) ['\n'] (writeEnv bs)
    rw [hfile, List.head?_append, hb.head?_writeLine, List.head?_eq_some_head hb.key_ne_nil,
      Option.some_or]
    exact (List.head?_eq_some_head hb.key_ne_nil).symm

theorem dropMarks_writeEnv {bs : List Binding} (h : ∀ b ∈ bs, IsWritable b)
    (hmark : IsUnmarked bs) : (writeEnv bs).dropWhile (· = '\uFEFF') = writeEnv bs := by
  have hhead := head?_writeEnv h
  cases hfile : writeEnv bs with
  | nil => rfl
  | cons c rest =>
    rw [hfile] at hhead
    rcases Option.bind_eq_some_iff.mp hhead.symm with ⟨b, hb, hc⟩
    have hne : c ≠ '\uFEFF' := by
      rintro rfl
      exact hmark b hb hc
    exact List.dropWhile_cons_of_neg (by simpa using hne)

theorem lines_writeEnv {bs : List Binding} (h : ∀ b ∈ bs, IsWritable b) :
    Text.lines (writeEnv bs) = bs.map writeLine := by
  have hnewline : ∀ l ∈ bs.map writeLine, '\n' ∉ l :=
    List.forall_mem_map.mpr fun b hb => (h b hb).newline_not_mem_writeLine
  have hreturn : ∀ l ∈ bs.map writeLine, Text.dropReturn l = l :=
    List.forall_mem_map.mpr fun b hb => (h b hb).dropReturn_writeLine
  rw [writeEnv, Text.lines_flatMap_newline hnewline]
  exact (List.map_congr_left hreturn).trans (List.map_id _)

theorem filterMap_assignment?_writeLine {bs : List Binding} (h : ∀ b ∈ bs, IsWritable b) :
    (bs.map writeLine).filterMap assignment? = bs := by
  rw [List.filterMap_map]
  exact (List.filterMap_congr fun b hb => (h b hb).assignment?_writeLine).trans List.filterMap_some

theorem assignments_writeEnv {bs : List Binding} (h : ∀ b ∈ bs, IsWritable b)
    (hmark : IsUnmarked bs) : assignments (writeEnv bs) = bs := by
  rw [assignments, envLines, dropMarks_writeEnv h hmark, lines_writeEnv h,
    filterMap_assignment?_writeLine h]

/-- Bindings of different keys are the entries of their map. -/
theorem EnvMap.entries_ofList {bs : List Binding} (h : (bs.map Prod.fst).Nodup) :
    (ofList bs).entries = bs :=
  entries_insertAll h ∅ fun _ _ => List.not_mem_nil

/-! ## 3. What is read can be written -/

theorem Text.splitOnce?_eq_some {sep : Char} {s front back : Text}
    (h : splitOnce? sep s = some (front, back)) : s = front ++ sep :: back ∧ sep ∉ front := by
  induction s generalizing front with
  | nil => cases h
  | cons c s ih =>
    rw [splitOnce?] at h
    split at h
    next hc =>
      cases h
      exact ⟨by rw [hc, List.nil_append], List.not_mem_nil⟩
    next hc =>
      rcases Option.map_eq_some_iff.mp h with ⟨⟨front', back'⟩, hsplit, hpair⟩
      cases hpair
      rcases ih hsplit with ⟨rfl, hnone⟩
      exact ⟨rfl, List.not_mem_cons_of_ne_of_not_mem (Ne.symm hc) hnone⟩

theorem assignment?_eq_some {line : Text} {b : Binding} (h : assignment? line = some b) :
    ∃ key value, Text.trim line = key ++ '=' :: value ∧ '=' ∉ key
      ∧ (Text.trim line).head? ≠ some '#' ∧ Text.trim key ≠ []
      ∧ b = (Text.trim key, Text.trim value) := by
  simp only [assignment?] at h
  split at h
  next => cases h
  next hhead =>
    split at h
    next => cases h
    next key value hsplit =>
      split at h
      next => cases h
      next hkey =>
        rcases Text.splitOnce?_eq_some hsplit with ⟨hline, hequals⟩
        exact ⟨key, value, hline, hequals, hhead, by simpa using hkey, (Option.some.inj h).symm⟩

theorem isWritable_of_assignment? {line : Text} (hnewline : '\n' ∉ line) {b : Binding}
    (h : assignment? line = some b) : IsWritable b := by
  rcases assignment?_eq_some h with ⟨key, value, hline, hequals, hhead, hkey, rfl⟩
  have hplain : '\n' ∉ Text.trim line := mt Text.mem_of_mem_trim hnewline
  rw [hline, List.mem_append, List.mem_cons, not_or, not_or] at hplain
  -- the key begins as the line does
  have hfirst : (Text.trim key).head? = (Text.trim line).head? := by
    have hne : key ≠ [] := by
      rintro rfl
      exact hkey rfl
    have hstart : key.head? = (Text.trim line).head? := by
      rw [hline, List.head?_append, List.head?_eq_some_head hne, Option.some_or]
    rcases Text.isPrefix_trim (hstart ▸ Text.head?_trim line) with ⟨u, hu⟩
    have hsame : key.head? = (Text.trim key).head? := by
      conv_lhs => rw [← hu, List.head?_append, List.head?_eq_some_head hkey, Option.some_or]
      exact (List.head?_eq_some_head hkey).symm
    rw [← hsame, hstart]
  exact {
    key_ne_nil := hkey
    trim_key := Text.trim_trim key
    equals_not_mem := mt Text.mem_of_mem_trim hequals
    newline_not_mem_key := mt Text.mem_of_mem_trim hplain.1
    not_comment := hfirst ▸ hhead
    trim_value := Text.trim_trim value
    newline_not_mem_value := mt Text.mem_of_mem_trim hplain.2.2 }

theorem isWritable_of_mem_assignments {raw : Text} {b : Binding} (h : b ∈ assignments raw) :
    IsWritable b := by
  rcases List.mem_filterMap.mp h with ⟨line, hline, hb⟩
  exact isWritable_of_assignment? (Text.newline_not_mem_of_mem_lines hline) hb

theorem isWritable_of_mem_parse {raw : Text} {b : Binding} (h : b ∈ (EnvMap.parse raw).entries) :
    IsWritable b := by
  obtain ⟨before, after, hsplit, -⟩ := EnvMap.isLastBinding_of_mem_ofList h
  have hmem : b ∈ assignments raw := hsplit ▸ List.mem_append_cons_self
  exact isWritable_of_mem_assignments hmem

/-! ## 4. Both directions -/

/-- Reading undoes writing: bindings that lines can give, of different keys and with no byte order
mark in front, are read back from the file they are written to.  And whatever file is read, its
bindings are of different keys, and each is one that a line can give. -/
theorem parse_writeEnv :
    (∀ bs : List Binding, (bs.map Prod.fst).Nodup → (∀ b ∈ bs, IsWritable b) → IsUnmarked bs →
        (EnvMap.parse (writeEnv bs)).entries = bs)
      ∧ ∀ raw : Text, (EnvMap.parse raw).keys.Nodup
          ∧ ∀ b ∈ (EnvMap.parse raw).entries, IsWritable b := by
  refine ⟨fun bs hkeys hbs hmark => ?_,
    fun raw => ⟨(EnvMap.parse raw).nodup, fun _ => isWritable_of_mem_parse⟩⟩
  rw [EnvMap.parse, assignments_writeEnv hbs hmark, EnvMap.entries_ofList hkeys]

/-- Signs and carriage returns inside a value, number signs inside a key, empty values, and a byte
order mark in front of a later key all come back. -/
theorem parse_writeEnv_odd :
    let bs : List Binding :=
      [("A".toList, "x=#y\rz".toList), ("B #".toList, []), ("\uFEFFC".toList, "'1'".toList)]
    (bs.map Prod.fst).Nodup ∧ (∀ b ∈ bs, IsWritable b) ∧ IsUnmarked bs
      ∧ writeEnv bs = "A=x=#y\rz\nB #=\n\uFEFFC='1'\n".toList
      ∧ (EnvMap.parse (writeEnv bs)).entries = bs := by
  intro bs
  have hkeys : (bs.map Prod.fst).Nodup := by decide
  have hwritable : ∀ b ∈ bs, IsWritable b := by
    intro b hb
    rw [List.mem_cons, List.mem_cons, List.mem_singleton] at hb
    rcases hb with rfl | rfl | rfl
    all_goals constructor <;> decide
  have hmark : IsUnmarked bs := by
    intro b hb
    cases hb
    decide
  exact ⟨hkeys, hwritable, hmark, by decide, parse_writeEnv.1 bs hkeys hwritable hmark⟩

end EnvAudit
