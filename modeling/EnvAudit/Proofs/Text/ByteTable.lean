import EnvAudit.Proofs.Text.Rows

/-!
# Looking up a place by its byte offset

Row and column of a place can also be had from its offset in bytes and a table of the offsets at
which rows begin.  Each step of the look-up may fail; `locate?_append` says that none does, whatever
the place, and that row and column are those of the place.
-/

namespace EnvAudit.Text

/-! ## 1. Bytes -/

/-- The number of bytes of a text in UTF-8. -/
def byteLength (s : Text) : Nat := totalWeight Char.utf8Size s

/-- The text split after a number of bytes, if a character ends there. -/
def splitBytes? : Nat → Text → Option (Text × Text)
  | 0, s => some ([], s)
  | _ + 1, [] => none
  | n + 1, c :: s =>
    if c.utf8Size ≤ n + 1 then
      (splitBytes? (n + 1 - c.utf8Size) s).map fun p => (c :: p.1, p.2)
    else none

/-- The text between two byte offsets. -/
def byteSlice? (start stop : Nat) (s : Text) : Option Text := do
  guard (start ≤ stop)
  let (_, after) ← splitBytes? start s
  let (slice, _) ← splitBytes? (stop - start) after
  return slice

theorem byteLength_cons (c : Char) (s : Text) :
    byteLength (c :: s) = c.utf8Size + byteLength s := rfl

theorem byteLength_append (s t : Text) : byteLength (s ++ t) = byteLength s + byteLength t :=
  totalWeight_append Char.utf8Size s t

theorem splitBytes?_append (s t : Text) : splitBytes? (byteLength s) (s ++ t) = some (s, t) := by
  induction s with
  | nil =>
    show splitBytes? 0 t = _
    rw [splitBytes?]
  | cons c s ih =>
    have hpos := c.utf8Size_pos
    -- a successor, for the equation of the split to apply
    obtain ⟨n, hn⟩ : ∃ n, byteLength (c :: s) = n + 1 :=
      Nat.exists_eq_add_one.mpr (by rw [byteLength_cons]; omega)
    have hle : c.utf8Size ≤ n + 1 := by rw [← hn, byteLength_cons]; omega
    have hrest : n + 1 - c.utf8Size = byteLength s := by rw [← hn, byteLength_cons]; omega
    rw [hn, List.cons_append, splitBytes?, if_pos hle, hrest, ih]
    rfl

theorem byteSlice?_append (s t u : Text) :
    byteSlice? (byteLength s) (byteLength (s ++ t)) (s ++ (t ++ u)) = some t := by
  have hle : byteLength s ≤ byteLength (s ++ t) := by rw [byteLength_append]; omega
  have hlength : byteLength (s ++ t) - byteLength s = byteLength t := by
    rw [byteLength_append]
    omega
  rw [byteSlice?, guard, if_pos hle, splitBytes?_append]
  show (splitBytes? (byteLength (s ++ t) - byteLength s) (t ++ u)).bind _ = _
  rw [hlength, splitBytes?_append]
  rfl

/-! ## 2. The table -/

/-- The byte offsets after the line feeds of a text before which `offset` bytes have gone by. -/
def rowStartsFrom (offset : Nat) : Text → List Nat
  | [] => []
  | c :: s =>
    let next := offset + c.utf8Size
    if c = '\n' then next :: rowStartsFrom next s else rowStartsFrom next s

/-- The byte offsets at which the rows of a text begin. -/
def rowStarts (s : Text) : List Nat := 0 :: rowStartsFrom 0 s

theorem rowStartsFrom_append (offset : Nat) (s t : Text) :
    rowStartsFrom offset (s ++ t)
      = rowStartsFrom offset s ++ rowStartsFrom (offset + byteLength s) t := by
  induction s generalizing offset with
  | nil => rfl
  | cons c s ih =>
    rw [List.cons_append, rowStartsFrom, rowStartsFrom, ih, byteLength_cons, ← Nat.add_assoc]
    split
    · rfl
    · rfl

theorem rowStarts_append (s t : Text) :
    rowStarts (s ++ t) = rowStarts s ++ rowStartsFrom (byteLength s) t := by
  rw [rowStarts, rowStartsFrom_append, Nat.zero_add]
  rfl

theorem length_rowStarts (s : Text) : (rowStarts s).length = s.count '\n' + 1 := by
  have hfrom (offset : Nat) : (rowStartsFrom offset s).length = s.count '\n' := by
    induction s generalizing offset with
    | nil => rfl
    | cons c s ih =>
      rw [rowStartsFrom]
      split
      next hc => rw [List.length_cons, ih, hc, List.count_cons_self]
      next hc => rw [ih, List.count_cons_of_ne hc]
  rw [rowStarts, List.length_cons, hfrom]

theorem mem_rowStartsFrom {offset start : Nat} {s : Text} (h : start ∈ rowStartsFrom offset s) :
    offset < start ∧ start ≤ offset + byteLength s := by
  induction s generalizing offset with
  | nil => cases h
  | cons c s ih =>
    have hpos := c.utf8Size_pos
    have hmem : start = offset + c.utf8Size ∨ start ∈ rowStartsFrom (offset + c.utf8Size) s := by
      rw [rowStartsFrom] at h
      split at h
      · exact List.mem_cons.mp h
      · exact Or.inr h
    rw [byteLength_cons]
    rcases hmem with rfl | hmem
    · omega
    · have hbounds := ih hmem
      omega

/-- The table has the beginning of the last row at the index of that row. -/
theorem exists_rowStarts_getElem? (s : Text) :
    ∃ above, s = above ++ lastRow s ∧ (rowStarts s)[s.count '\n']? = some (byteLength above) := by
  -- by the last character: a line feed opens a new row at the end, any other lengthens the last
  induction s using List.reverseRecOn with
  | nil => exact ⟨[], rfl, rfl⟩
  | append_singleton s c ih =>
    rw [rowStarts_append]
    by_cases hc : c = '\n'
    · subst hc
      refine ⟨s ++ ['\n'], ?_, ?_⟩
      · rw [lastRow_append_newline]
        exact (List.append_nil _).symm
      · rw [List.count_append, List.count_singleton_self, ← length_rowStarts,
          List.getElem?_append_right (Nat.le_refl _), Nat.sub_self, byteLength_append]
        rfl
    · rcases ih with ⟨above, hs, hstart⟩
      have hnone : '\n' ∉ [c] := by simpa using Ne.symm hc
      refine ⟨above, ?_, ?_⟩
      · rw [lastRow_append hnone, ← List.append_assoc, ← hs]
      · rw [List.count_append, List.count_eq_zero_of_not_mem hnone, Nat.add_zero,
          List.getElem?_append_left (by rw [length_rowStarts]; omega), hstart]

/-! ## 3. The look-up -/

/-- Row, counted from 0, and column, counted from 1, of a byte offset.  The row is the last one that
does not begin after the offset, the column one more than the number of characters since then. -/
def locate? (s : Text) (offset : Nat) : Option (Nat × Nat) :=
  match ((rowStarts s).takeWhile (· ≤ offset)).length with
  | 0 => none
  | row + 1 => do
    let start ← (rowStarts s)[row]?
    let front ← byteSlice? start offset s
    return (row, front.length + 1)

theorem takeWhile_rowStarts (before after : Text) :
    (rowStarts (before ++ after)).takeWhile (· ≤ byteLength before) = rowStarts before := by
  have hbefore : ∀ start ∈ rowStarts before, decide (start ≤ byteLength before) = true := by
    intro start hstart
    apply decide_eq_true
    rcases List.mem_cons.mp hstart with rfl | hstart
    · exact Nat.zero_le _
    · have hle := (mem_rowStartsFrom hstart).2
      omega
  -- the entries of the text behind the place all lie behind its offset
  rw [rowStarts_append, List.takeWhile_append_of_pos hbefore]
  cases hafter : rowStartsFrom (byteLength before) after with
  | nil => exact List.append_nil _
  | cons start starts =>
    have hlt := (mem_rowStartsFrom (hafter ▸ List.mem_cons_self)).1
    rw [List.takeWhile_cons_of_neg (by simpa using hlt), List.append_nil]

/-- No step of the look-up fails at a place of the text, and it returns the row and the column of
the place. -/
theorem locate?_append (before after : Text) :
    locate? (before ++ after) (byteLength before)
      = some (before.count '\n', columnAfter before) := by
  rcases exists_rowStarts_getElem? before with ⟨above, hbefore, hstart⟩
  -- between the row's beginning and the place stands what the column counts
  have hslice : byteSlice? (byteLength above) (byteLength before) (before ++ after)
      = some (lastRow before) := by
    have h := byteSlice?_append above (lastRow before) after
    rwa [← List.append_assoc, ← hbefore] at h
  have hlookup : (rowStarts (before ++ after))[before.count '\n']? = some (byteLength above) := by
    rw [rowStarts_append, List.getElem?_append_left (by rw [length_rowStarts]; omega), hstart]
  rw [locate?, takeWhile_rowStarts, length_rowStarts]
  show ((rowStarts (before ++ after))[before.count '\n']?).bind _ = _
  rw [hlookup]
  show (byteSlice? (byteLength above) (byteLength before) (before ++ after)).bind _ = _
  rw [hslice]
  rfl

end EnvAudit.Text
