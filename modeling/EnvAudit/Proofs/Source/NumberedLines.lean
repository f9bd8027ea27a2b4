import EnvAudit.Source.Suppression

/-!
# Numbered lines

`numberLines` walks down the rows with the mark of the row above in hand.  `getElem?_numberLines`
says row by row what comes of it.
-/

namespace EnvAudit

/-- Whether the row with this index carries the marker. -/
def isMarkedRow (rows : List Text) (i : Nat) : Bool := rows[i]?.any hasIgnoreMarker

/-- Whether the row above carries the marker; `marked` answers for what stands above the first. -/
def isMarkedAbove (marked : Bool) (rows : List Text) : Nat → Bool
  | 0 => marked
  | i + 1 => isMarkedRow rows i

/-- Whether a row is out of every check: it carries the marker, or the row above does. -/
def isIgnoredRow (rows : List Text) (i : Nat) : Bool :=
  isMarkedAbove false rows i || isMarkedRow rows i

theorem getElem?_numberLinesFrom (n : Nat) (marked : Bool) (rows : List Text) (i : Nat) :
    (numberLinesFrom n marked rows)[i]?
      = rows[i]?.map fun l =>
          ⟨n + i, l, isMarkedAbove marked rows i || isMarkedRow rows i⟩ := by
  induction rows generalizing n marked i with
  | nil => rfl
  | cons l ls ih =>
    cases i with
    | zero => rfl
    | succ i =>
      -- the mark handed down is that of the row just passed
      have habove : isMarkedAbove (hasIgnoreMarker l) ls i = isMarkedRow (l :: ls) i := by
        cases i <;> rfl
      rw [numberLinesFrom, List.getElem?_cons_succ, List.getElem?_cons_succ, ih, habove,
        Nat.add_assoc, Nat.add_comm 1 i]
      rfl

theorem getElem?_numberLines (rows : List Text) (i : Nat) :
    (numberLines rows)[i]? = rows[i]?.map fun l => ⟨i + 1, l, isIgnoredRow rows i⟩ := by
  rw [numberLines, getElem?_numberLinesFrom, Nat.add_comm]
  rfl

theorem mem_numberLines {rows : List Text} {l : SourceLine} :
    l ∈ numberLines rows
      ↔ ∃ i row, rows[i]? = some row ∧ l = ⟨i + 1, row, isIgnoredRow rows i⟩ := by
  rw [List.mem_iff_getElem?]
  simp only [getElem?_numberLines, Option.map_eq_some_iff]
  exact exists_congr fun i => exists_congr fun row => and_congr_right fun _ => eq_comm

theorem pairwise_numberLines (rows : List Text) :
    (numberLines rows).Pairwise fun k l => k.number < l.number := by
  have hnumber (i : Nat) (hi : i < (numberLines rows).length) :
      (numberLines rows)[i].number = i + 1 := by
    have h := getElem?_numberLines rows i
    rw [List.getElem?_eq_getElem hi] at h
    rcases Option.map_eq_some_iff.mp h.symm with ⟨row, _, hline⟩
    rw [← hline]
  rw [List.pairwise_iff_getElem]
  intro i j hi hj hij
  rw [hnumber i hi, hnumber j hj]
  omega

end EnvAudit
