import EnvAudit.Proofs.Env.AnnotationText
import EnvAudit.Proofs.Env.Occurrences
import EnvAudit.Proofs.Env.PendingDate

/-!
# Annotations and assignments in pairs

The pass over an env file keeps one date at a time.  It is the date of the nearest line above that
is an annotation or an assignment of a key, if that is an annotation with a date on a calendar
(`pendingDate?_take`).  So the warnings come from pairs of lines, an annotation and the next
assignment with nothing that counts between them, each line in one pair at most
(`expiries_forall₂_datedPairs`).
-/

namespace EnvAudit

/-! ## 1. What lines say -/

/-- The line gives this text as a date. -/
def WritesDate (line written : Text) : Prop :=
  ∃ a : ExpireLine (Text.trim line), a.written = written

/-- The line is no annotation, and has this key directly before an `=`. -/
def Assigns (line key : Text) : Prop :=
  (∀ written, ¬ WritesDate line written) ∧ key ≠ [] ∧ (∀ c ∈ key, isKeyChar c)
    ∧ ∃ value, Text.trim line = key ++ '=' :: value

/-- The line is an annotation or an assignment. -/
def Counts (line : Text) : Prop := (∃ written, WritesDate line written) ∨ ∃ key, Assigns line key

/-- An annotation whose date is on a calendar, the assignment that comes after it, and no line
between them that counts. -/
structure IsDatedPair (ls : List Text) (a b : Nat) : Prop where
  lt : a < b
  date : ∃ line ∈ ls[a]?, ∃ written d, WritesDate line written ∧ IsDateText written d
  key : ∃ line ∈ ls[b]?, ∃ key, Assigns line key
  between : ∀ i, a < i → i < b → ∀ line ∈ ls[i]?, ¬ Counts line

/-- The last line before `b` that counts stands at `a`. -/
structure IsLastPlace (ls : List Text) (a b : Nat) : Prop where
  lt : a < b
  counts : ∃ line ∈ ls[a]?, Counts line
  between : ∀ i, a < i → i < b → ∀ line ∈ ls[i]?, ¬ Counts line

/-- The warning has its date from one line, letter for letter, and its key from the other. -/
structure Warns (ls : List Text) (now : Instant) (a b : Nat) (e : Expiry) : Prop where
  date : ∃ line ∈ ls[a]?, WritesDate line e.date
  key : ∃ line ∈ ls[b]?, Assigns line e.key
  daysLeft : ∃ d, IsDateText e.date d ∧ e.daysLeft = daysUntil d now

variable {ls : List Text} {line key : Text} {a b : Nat} {d : Date}

theorem annotates_iff : annotates line ↔ ∃ written, WritesDate line written := by
  rw [annotates, Option.isSome_iff_exists]
  exact exists_congr fun written => annotation?_eq_some

theorem annotatedDate?_eq_some :
    annotatedDate? line = some d ↔ ∃ written, WritesDate line written ∧ IsDateText written d := by
  rw [annotatedDate?, Option.bind_eq_some_iff]
  apply exists_congr
  intro written
  rw [annotation?_eq_some]
  apply and_congr_right
  intro h
  rcases h with ⟨found, rfl⟩
  rcases found.hasDateShape with ⟨year, month, day, hshape⟩
  exact readDate?_eq_some hshape

theorem datableKey?_eq_some : datableKey? line = some key ↔ Assigns line key := by
  unfold datableKey? Assigns
  rw [← not_exists, ← annotates_iff, ← assignedKey?_eq_some]
  split
  next h => simp [h]
  next h => simp [h]

theorem counts_iff : Counts line ↔ annotates line || (datableKey? line).isSome := by
  rw [Counts, Bool.or_eq_true, annotates_iff, Option.isSome_iff_exists]
  simp only [datableKey?_eq_some]

/-! ## 2. The date that is kept -/

/-- The place of the nearest line above that counts. -/
def pendingPlace? : List Text → Option Nat
  | [] => none
  | l :: above =>
    if annotates l || (datableKey? l).isSome then some above.length else pendingPlace? above

theorem pendingPlace?_take_succ (h : ls[b]? = some line) :
    pendingPlace? (ls.take (b + 1)).reverse
      = if annotates line || (datableKey? line).isSome then some b
        else pendingPlace? (ls.take b).reverse := by
  rw [reverse_take_succ h, pendingPlace?, length_reverse_take h]

/-- The pass keeps the date of the nearest line above that counts. -/
theorem pendingDate?_take (hb : b ≤ ls.length) :
    pendingDate? (ls.take b).reverse
      = (pendingPlace? (ls.take b).reverse).bind fun a => (ls[a]?).bind annotatedDate? := by
  induction b with
  | zero => rfl
  | succ b ih =>
    have hline : ls[b]? = some ls[b] := List.getElem?_eq_getElem hb
    rw [pendingPlace?_take_succ hline, reverse_take_succ hline, pendingDate?_cons,
      ih (Nat.le_of_succ_le hb)]
    by_cases hann : annotates ls[b]
    · rw [if_pos hann, if_pos (by rw [hann, Bool.true_or]), Option.bind_some, hline,
        Option.bind_some]
    · rw [if_neg hann, Bool.eq_false_iff.mpr hann, Bool.false_or]
      split
      next =>
        rw [Option.bind_some, hline, Option.bind_some, annotatedDate?_of_not_annotates hann]
      next => rfl

/-- The pass looks back to the last line that counts. -/
theorem pendingPlace?_eq_some (hb : b ≤ ls.length) :
    pendingPlace? (ls.take b).reverse = some a ↔ IsLastPlace ls a b := by
  induction b with
  | zero =>
    refine ⟨fun h => ?_, fun h => absurd h.lt (Nat.not_lt_zero a)⟩
    cases h
  | succ b ih =>
    have hline : ls[b]? = some ls[b] := List.getElem?_eq_getElem hb
    rw [pendingPlace?_take_succ hline]
    by_cases hcounts : Counts ls[b]
    · rw [if_pos (counts_iff.mp hcounts), Option.some.injEq]
      constructor
      · rintro rfl
        exact ⟨Nat.lt_succ_self b, ⟨ls[b], hline, hcounts⟩, by omega⟩
      · intro h
        have hlt := h.lt
        by_contra hne
        exact h.between b (by omega) (Nat.lt_succ_self b) ls[b] hline hcounts
    · rw [if_neg (mt counts_iff.mpr hcounts), ih (Nat.le_of_succ_le hb)]
      constructor
      · intro h
        refine ⟨Nat.lt_succ_of_lt h.lt, h.counts, fun i hai hib line hi => ?_⟩
        rcases Nat.lt_succ_iff_lt_or_eq.mp hib with hlt | rfl
        · exact h.between i hai hlt line hi
        · exact Option.some.inj (hline.symm.trans hi) ▸ hcounts
      · intro h
        have hne : a ≠ b := by
          rintro rfl
          rcases h.counts with ⟨line, hi, hline'⟩
          exact hcounts (Option.some.inj (hline.symm.trans hi) ▸ hline')
        have hlt := h.lt
        exact ⟨by omega, h.counts, fun i hai hib => h.between i hai (Nat.lt_succ_of_lt hib)⟩

/-! ## 3. The lines with a warning -/

theorem mem_placeFrom {above : List Text} {p : PlacedLine} :
    p ∈ placeFrom above ls
      ↔ ∃ b line, ls[b]? = some line ∧ p = ⟨(ls.take b).reverse ++ above, line⟩ := by
  induction ls generalizing above with
  | nil => simp [placeFrom]
  | cons l ls ih =>
    rw [placeFrom, List.mem_cons, ih]
    constructor
    · intro h
      rcases h with rfl | ⟨b, line, hline, rfl⟩
      · exact ⟨0, l, rfl, rfl⟩
      · exact ⟨b + 1, line, hline, by simp⟩
    · intro h
      rcases h with ⟨b, line, hline, rfl⟩
      cases b with
      | zero =>
        cases hline
        exact Or.inl rfl
      | succ b => exact Or.inr ⟨b, line, hline, by simp⟩

theorem mem_placedLines {raw : Text} {p : PlacedLine} :
    p ∈ placedLines raw
      ↔ ∃ b line, (envLines raw)[b]? = some line ∧ p = ⟨((envLines raw).take b).reverse, line⟩ := by
  rw [placedLines, mem_placeFrom]
  simp only [List.append_nil]

theorem pairwise_placeFrom (above ls : List Text) :
    (placeFrom above ls).Pairwise fun p q => p.above.length < q.above.length := by
  induction ls generalizing above with
  | nil => exact List.Pairwise.nil
  | cons l ls ih =>
    refine List.Pairwise.cons (fun q hq => ?_) (ih (l :: above))
    rcases mem_placeFrom.mp hq with ⟨b, line, _, rfl⟩
    show above.length < ((ls.take b).reverse ++ l :: above).length
    rw [List.length_append, List.length_cons]
    omega

/-- The lines with a warning, with the key and the date. -/
def warned (raw : Text) : List (PlacedLine × Text × Date) :=
  (placedLines raw).filterMap fun p => p.reported?.map fun found => (p, found)

/-- The two lines that a warning comes from. -/
def PlacedLine.pair (p : PlacedLine) : Nat × Nat :=
  ((pendingPlace? p.above).getD 0, p.above.length)

theorem expiries_eq_map_warned (raw : Text) (now : Instant) :
    expiries raw now = (warned raw).map fun w => ⟨w.2.1, w.2.2.toText, daysUntil w.2.2 now⟩ := by
  have hkeys : datedKeys raw = (warned raw).map Prod.snd := by
    rw [datedKeys_eq, warned, List.map_filterMap]
    simp [Option.map_map, Function.comp_def]
  rw [expiries, hkeys, List.map_map]
  rfl

theorem mem_warned {raw : Text} {p : PlacedLine} :
    (p, key, d) ∈ warned raw ↔ p ∈ placedLines raw ∧ p.reported? = some (key, d) := by
  unfold warned
  rw [List.mem_filterMap]
  constructor
  · intro h
    rcases h with ⟨q, hq, hfound⟩
    rcases Option.map_eq_some_iff.mp hfound with ⟨found, hreported, hpair⟩
    cases hpair
    exact ⟨hq, hreported⟩
  · intro h
    exact ⟨p, h.1, Option.map_eq_some_iff.mpr ⟨(key, d), h.2, rfl⟩⟩

/-- A line gets a warning if it is an assignment and the last line above that counts has a date. -/
theorem reported?_take (hline : ls[b]? = some line) :
    (PlacedLine.mk (ls.take b).reverse line).reported? = some (key, d)
      ↔ Assigns line key
        ∧ ∃ a, IsLastPlace ls a b ∧ ∃ line' ∈ ls[a]?, annotatedDate? line' = some d := by
  have hb := (List.getElem?_eq_some_iff.mp hline).1.le
  rw [PlacedLine.reported?_eq_some]
  show datableKey? line = some key ∧ pendingDate? (ls.take b).reverse = some d ↔ _
  rw [datableKey?_eq_some, pendingDate?_take hb, Option.bind_eq_some_iff]
  simp only [pendingPlace?_eq_some hb, Option.bind_eq_some_iff, Option.mem_def]

theorem pair_take (hline : ls[b]? = some line) (h : IsLastPlace ls a b) :
    (PlacedLine.mk (ls.take b).reverse line).pair = (a, b) := by
  have hb := (List.getElem?_eq_some_iff.mp hline).1.le
  show ((pendingPlace? (ls.take b).reverse).getD 0, (ls.take b).reverse.length) = (a, b)
  rw [(pendingPlace?_eq_some hb).mpr h, length_reverse_take hline]
  rfl

theorem warns_of_mem_warned {raw : Text} (now : Instant) {p : PlacedLine}
    (h : (p, key, d) ∈ warned raw) :
    IsDatedPair (envLines raw) p.pair.1 p.pair.2
      ∧ Warns (envLines raw) now p.pair.1 p.pair.2 ⟨key, d.toText, daysUntil d now⟩ := by
  rcases mem_warned.mp h with ⟨hp, hreported⟩
  rcases mem_placedLines.mp hp with ⟨b, line, hline, rfl⟩
  rcases (reported?_take hline).mp hreported with ⟨hkey, a, hlast, line', ha, hdate⟩
  rcases annotatedDate?_eq_some.mp hdate with ⟨written, hwritten, htext⟩
  have hdated : IsDatedPair (envLines raw) a b :=
    ⟨hlast.lt, ⟨line', ha, written, d, hwritten, htext⟩, ⟨line, hline, key, hkey⟩, hlast.between⟩
  have hletters : d.toText = written := htext.2.2
  rw [pair_take hline hlast, hletters]
  exact ⟨hdated, ⟨line', ha, hwritten⟩, ⟨line, hline, hkey⟩, d, htext, rfl⟩

theorem exists_mem_warned {raw : Text} (h : IsDatedPair (envLines raw) a b) :
    ∃ w ∈ warned raw, w.1.pair = (a, b) := by
  rcases h.date with ⟨line', ha, written, d, hwritten, htext⟩
  rcases h.key with ⟨line, hline, key, hkey⟩
  have hlast : IsLastPlace (envLines raw) a b :=
    ⟨h.lt, ⟨line', ha, Or.inl ⟨written, hwritten⟩⟩, h.between⟩
  refine ⟨(⟨((envLines raw).take b).reverse, line⟩, key, d), mem_warned.mpr ⟨?_, ?_⟩,
    pair_take hline hlast⟩
  · exact mem_placedLines.mpr ⟨b, line, hline, rfl⟩
  · exact (reported?_take hline).mpr
      ⟨hkey, a, hlast, line', ha, annotatedDate?_eq_some.mpr ⟨written, hwritten, htext⟩⟩

/-! ## 4. Pairs in order -/

/-- The second of two pairs begins below the first. -/
theorem IsDatedPair.lt_of_lt {a' b' : Nat} (h : IsDatedPair ls a b) (h' : IsDatedPair ls a' b')
    (hlt : b < b') : b < a' := by
  rcases h.key with ⟨line, hline, key, hkey⟩
  rcases h'.date with ⟨line', hline', written, _, hwritten, _⟩
  -- no line between those of a pair is an assignment, and no annotation is one
  have hle : b ≤ a' := by
    by_contra hgt
    exact h'.between b (by omega) hlt line hline (Or.inr ⟨key, hkey⟩)
  have hne : b ≠ a' := by
    rintro rfl
    cases Option.some.inj (hline.symm.trans hline')
    exact hkey.1 written hwritten
  omega

theorem pairwise_warned (raw : Text) :
    (warned raw).Pairwise fun v w => v.1.pair.2 < w.1.pair.2 := by
  unfold warned
  rw [List.pairwise_filterMap]
  apply (pairwise_placeFrom [] (envLines raw)).imp
  intro p q hlt v hv w hw
  rcases Option.map_eq_some_iff.mp hv with ⟨_, _, rfl⟩
  rcases Option.map_eq_some_iff.mp hw with ⟨_, _, rfl⟩
  exact hlt

/-- An assignment that can take a date gives the parsed file its key. -/
theorem mem_keys_parse_of_assigns {raw : Text} (hline : line ∈ envLines raw)
    (h : Assigns line key) : key ∈ (EnvMap.parse raw).keys := by
  have hparsed := assignment?_of_assignedKey? (assignedKey?_eq_some.mpr h.2)
  rcases Option.map_eq_some_iff.mp hparsed with ⟨e, he, rfl⟩
  rw [EnvMap.parse, EnvMap.keys_ofList, mem_firsts]
  exact List.mem_map_of_mem (List.mem_filterMap.mpr ⟨line, hline, he⟩)

/-- The warnings of an env file are, in order, those of its pairs of an annotation and the
assignment after it.  No line is in two pairs, the date is that of the annotation letter for letter
and the key that of the assignment, which is a key of the parsed file. -/
theorem expiries_forall₂_datedPairs (raw : Text) (now : Instant) :
    ∃ pairs : List (Nat × Nat),
      pairs.Pairwise (fun p q => p.2 < q.1)
        ∧ (∀ a b, (a, b) ∈ pairs ↔ IsDatedPair (envLines raw) a b)
        ∧ List.Forall₂ (fun p e => Warns (envLines raw) now p.1 p.2 e) pairs (expiries raw now)
        ∧ ∀ e ∈ expiries raw now, e.key ∈ (EnvMap.parse raw).keys := by
  have hpair (w) (hw : w ∈ warned raw) := warns_of_mem_warned now hw
  refine ⟨(warned raw).map (·.1.pair), ?_, fun a b => ⟨fun h => ?_, fun h => ?_⟩, ?_, ?_⟩
  · rw [List.pairwise_map]
    apply (pairwise_warned raw).imp_of_mem
    intro v w hv hw hlt
    exact (hpair v hv).1.lt_of_lt (hpair w hw).1 hlt
  · rcases List.mem_map.mp h with ⟨w, hw, heq⟩
    have hdated := (hpair w hw).1
    rwa [heq] at hdated
  · rcases exists_mem_warned h with ⟨w, hw, heq⟩
    exact List.mem_map.mpr ⟨w, hw, heq⟩
  · rw [expiries_eq_map_warned, List.forall₂_map_left_iff, List.forall₂_map_right_iff,
      List.forall₂_same]
    intro w hw
    exact (hpair w hw).2
  · rw [expiries_eq_map_warned, List.forall_mem_map]
    intro w hw
    rcases (hpair w hw).2.key with ⟨line, hline, hkey⟩
    exact mem_keys_parse_of_assigns (List.mem_of_getElem? hline) hkey

end EnvAudit
