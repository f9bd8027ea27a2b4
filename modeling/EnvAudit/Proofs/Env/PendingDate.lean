import EnvAudit.Proofs.Env.Assignment
import EnvAudit.Proofs.Lists

/-!
# The assignment an annotation applies to

An annotation is meant for the assignment that follows it.  The pass over an env file keeps the date
of the last annotation until an assignment takes it.  `reported?` says line by line what comes of
that, `promised?` what the annotations promise when an assignment is what the parser takes as one.
The two differ on some files: a key with a blank before its `=` does not take its date, and leaves
it to a later key; and a date on no calendar takes an earlier date back.
`expiries_eq_promised_iff` says on which files they agree.
-/

namespace EnvAudit

/-! ## 1. Lines in their place -/

def annotates (line : Text) : Bool := (annotation? (Text.trim line)).isSome

/-- The date of an annotation line, if a calendar has it. -/
def annotatedDate? (line : Text) : Option Date := (annotation? (Text.trim line)).bind readDate?

/-- The key that the pass takes from a line that is no annotation. -/
def datableKey? (line : Text) : Option Text :=
  if annotates line then none else assignedKey? (Text.trim line)

/-- The key that the parser finds on a line that is no annotation. -/
def parsedKey? (line : Text) : Option Text :=
  if annotates line then none else (assignment? line).map (·.1)

/-- A line with the lines above it, the nearest first. -/
structure PlacedLine where
  above : List Text
  text : Text

def placeFrom (above : List Text) : List Text → List PlacedLine
  | [] => []
  | l :: ls => ⟨above, l⟩ :: placeFrom (l :: above) ls

/-- The lines of an env file in their place. -/
def placedLines (raw : Text) : List PlacedLine := placeFrom [] (envLines raw)

/-- The date that the pass keeps below these lines: that of the nearest annotation, unless a line
that the pass takes as an assignment is nearer. -/
def pendingDate? (above : List Text) : Option Date :=
  (above.find? fun l => annotates l || (datableKey? l).isSome).bind annotatedDate?

/-- The lines since the last assignment of the parser, the nearest first. -/
def sinceAssignment (above : List Text) : List Text :=
  above.takeWhile fun l => (parsedKey? l).isNone

/-- The last date that a calendar has, of those annotated since the last assignment. -/
def dueDate? (above : List Text) : Option Date := (sinceAssignment above).findSome? annotatedDate?

/-- The date of the last annotation since the last assignment, if a calendar has it. -/
def latestDate? (above : List Text) : Option Date :=
  ((sinceAssignment above).find? annotates).bind annotatedDate?

namespace PlacedLine

/-- What the pass reports for a line. -/
def reported? (p : PlacedLine) : Option (Text × Date) :=
  (datableKey? p.text).bind fun key => (pendingDate? p.above).map fun date => (key, date)

/-- What the annotations above a line promise for it. -/
def promised? (p : PlacedLine) : Option (Text × Date) :=
  (parsedKey? p.text).bind fun key => (dueDate? p.above).map fun date => (key, date)

/-- Nothing gets in the way of a promise: the key stands directly before its `=`, and the last
annotation since the assignment before has a date that is on a calendar. -/
def KeepsPromise (p : PlacedLine) : Prop :=
  p.promised?.isSome → (datableKey? p.text).isSome ∧ (latestDate? p.above).isSome

end PlacedLine

/-- The keys that annotations promise a date, in the order of their lines. -/
def promisedKeys (raw : Text) : List (Text × Date) := (placedLines raw).filterMap (·.promised?)

/-- The warnings that the annotations of an env file promise at an instant. -/
def promisedExpiries (raw : Text) (now : Instant) : List Expiry :=
  (promisedKeys raw).map fun k => ⟨k.1, k.2.toText, daysUntil k.2 now⟩

/-! ## 2. One line further -/

theorem annotatedDate?_of_not_annotates {l : Text} (h : ¬ annotates l) :
    annotatedDate? l = none := by
  rw [annotates, Option.isSome_iff_ne_none, ne_eq, not_not] at h
  rw [annotatedDate?, h, Option.bind_none]

theorem datableKey?_of_annotates {l : Text} (h : annotates l) : datableKey? l = none :=
  if_pos h

theorem parsedKey?_of_annotates {l : Text} (h : annotates l) : parsedKey? l = none :=
  if_pos h

theorem parsedKey?_of_datableKey? {l key : Text} (h : datableKey? l = some key) :
    parsedKey? l = some key := by
  unfold datableKey? at h
  unfold parsedKey?
  split at h
  next => cases h
  next hplain => rw [if_neg hplain, assignment?_of_assignedKey? h]

theorem datableKey?_of_parsedKey?_eq_none {l : Text} (h : parsedKey? l = none) :
    datableKey? l = none := by
  cases hkey : datableKey? l with
  | none => rfl
  | some key =>
    rw [parsedKey?_of_datableKey? hkey] at h
    cases h

theorem pendingDate?_cons (l : Text) (above : List Text) :
    pendingDate? (l :: above)
      = if annotates l then annotatedDate? l
        else if (datableKey? l).isSome then none else pendingDate? above := by
  unfold pendingDate?
  rw [List.find?_cons]
  by_cases hann : annotates l
  · rw [if_pos hann, hann]
    rfl
  · rw [if_neg hann, Bool.eq_false_iff.mpr hann]
    cases (datableKey? l).isSome
    · rfl
    · exact annotatedDate?_of_not_annotates hann

theorem sinceAssignment_cons (l : Text) (above : List Text) :
    sinceAssignment (l :: above)
      = if (parsedKey? l).isSome then [] else l :: sinceAssignment above := by
  unfold sinceAssignment
  rw [List.takeWhile_cons]
  cases parsedKey? l <;> rfl

theorem dueDate?_cons (l : Text) (above : List Text) :
    dueDate? (l :: above)
      = if (parsedKey? l).isSome then none else (annotatedDate? l).or (dueDate? above) := by
  rw [dueDate?, sinceAssignment_cons]
  split
  · rfl
  · rw [List.findSome?_cons]
    cases annotatedDate? l <;> rfl

theorem latestDate?_cons (l : Text) (above : List Text) :
    latestDate? (l :: above)
      = if (parsedKey? l).isSome then none
        else if annotates l then annotatedDate? l else latestDate? above := by
  rw [latestDate?, sinceAssignment_cons]
  split
  · rfl
  · rw [List.find?_cons]
    cases annotates l <;> rfl

/-! ## 3. The pass, line by line -/

theorem datedKeysFrom_cons (pending : Option Date) (l : Text) (ls : List Text) :
    datedKeysFrom pending (l :: ls)
      = ((datableKey? l).bind fun key => pending.map (key, ·)).toList
        ++ datedKeysFrom (if annotates l then annotatedDate? l
            else if (datableKey? l).isSome then none else pending) ls := by
  -- one step of the pass; the call on the rest stays closed
  conv => lhs; unfold datedKeysFrom
  cases hwritten : annotation? (Text.trim l) with
  | some written =>
    have hann : annotates l := by rw [annotates, hwritten]; rfl
    rw [if_pos hann, datableKey?_of_annotates hann, annotatedDate?, hwritten]
    simp only [hwritten]
    rfl
  | none =>
    have hann : ¬ annotates l := by rw [annotates, hwritten]; exact Bool.false_ne_true
    rw [if_neg hann, datableKey?, if_neg hann]
    cases hkey : assignedKey? (Text.trim l) <;> cases pending <;> simp [hwritten, hkey]

theorem datedKeysFrom_eq (above ls : List Text) :
    datedKeysFrom (pendingDate? above) ls = (placeFrom above ls).filterMap (·.reported?) := by
  induction ls generalizing above with
  | nil => rfl
  | cons l ls ih =>
    rw [datedKeysFrom_cons, ← pendingDate?_cons, ih, placeFrom, List.filterMap_cons]
    show (PlacedLine.mk above l).reported?.toList ++ _ = _
    cases (PlacedLine.mk above l).reported? <;> rfl

/-- The warnings are those of the lines for which the pass reports one. -/
theorem datedKeys_eq (raw : Text) :
    datedKeys raw = (placedLines raw).filterMap (·.reported?) :=
  datedKeysFrom_eq [] (envLines raw)

/-! ## 4. Where the pass keeps what is promised -/

-- If the last annotation since the assignment has a date, it is the last of those with one.
theorem dueDate?_of_latestDate? {above : List Text} {date : Date}
    (h : latestDate? above = some date) : dueDate? above = some date := by
  induction above with
  | nil => cases h
  | cons l above ih =>
    rw [latestDate?_cons] at h
    rw [dueDate?_cons]
    split at h
    next => cases h
    next hparsed =>
      rw [if_neg hparsed]
      split at h
      next => rw [h, Option.some_or]
      next hann => rw [annotatedDate?_of_not_annotates hann, Option.none_or, ih h]

-- A pending date is that of the nearest annotation, and a due one says no assignment comes between.
theorem latestDate?_isSome {above : List Text} (hpending : (pendingDate? above).isSome)
    (hdue : (dueDate? above).isSome) : (latestDate? above).isSome := by
  induction above with
  | nil => cases hdue
  | cons l above ih =>
    rw [pendingDate?_cons] at hpending
    rw [dueDate?_cons] at hdue
    rw [latestDate?_cons]
    split at hdue
    next => cases hdue
    next hparsed =>
      rw [if_neg hparsed]
      split at hpending
      next hann => rwa [if_pos hann]
      next hann =>
        rw [if_neg hann]
        rw [annotatedDate?_of_not_annotates hann, Option.none_or] at hdue
        split at hpending
        next => cases hpending
        next => exact ih hpending hdue

theorem bind_map_eq_some {α β : Type} {x : Option α} {y : Option β} {a : α} {b : β} :
    (x.bind fun a' => y.map fun b' => (a', b')) = some (a, b) ↔ x = some a ∧ y = some b := by
  cases x <;> cases y <;> simp

namespace PlacedLine

theorem reported?_eq_some {p : PlacedLine} {key : Text} {date : Date} :
    p.reported? = some (key, date)
      ↔ datableKey? p.text = some key ∧ pendingDate? p.above = some date :=
  bind_map_eq_some

theorem promised?_eq_some {p : PlacedLine} {key : Text} {date : Date} :
    p.promised? = some (key, date)
      ↔ parsedKey? p.text = some key ∧ dueDate? p.above = some date :=
  bind_map_eq_some

/-- What is reported as promised has nothing in its way. -/
theorem keepsPromise_of_eq {p : PlacedLine} (h : p.reported? = p.promised?) : p.KeepsPromise := by
  intro hpromised
  rcases Option.isSome_iff_exists.mp hpromised with ⟨⟨key, date⟩, hkey⟩
  have hdue := (promised?_eq_some.mp hkey).2
  rcases reported?_eq_some.mp (h.trans hkey) with ⟨hdatable, hpending⟩
  refine ⟨Option.isSome_iff_exists.mpr ⟨key, hdatable⟩, latestDate?_isSome ?_ ?_⟩
  · rw [hpending, Option.isSome_some]
  · rw [hdue, Option.isSome_some]

variable {above : List Text} {l : Text}

/-- While the pass keeps just the date of the last annotation since the last assignment, it reports
what is promised on a line that keeps its promise. -/
theorem reported?_eq_promised? (hpending : pendingDate? above = latestDate? above)
    (hkeeps : (PlacedLine.mk above l).KeepsPromise) :
    (PlacedLine.mk above l).reported? = (PlacedLine.mk above l).promised? := by
  cases hpromised : (PlacedLine.mk above l).promised? with
  | some found =>
    rcases found with ⟨key, date⟩
    rcases promised?_eq_some.mp hpromised with ⟨hparsed, hdue⟩
    rcases hkeeps (by rw [hpromised, Option.isSome_some]) with ⟨hdatable, hlatest⟩
    rcases Option.isSome_iff_exists.mp hdatable with ⟨key', hkey⟩
    rcases Option.isSome_iff_exists.mp hlatest with ⟨date', hdate⟩
    rcases Option.some.inj ((parsedKey?_of_datableKey? hkey).symm.trans hparsed) with rfl
    rcases Option.some.inj ((dueDate?_of_latestDate? hdate).symm.trans hdue) with rfl
    exact reported?_eq_some.mpr ⟨hkey, hpending.trans hdate⟩
  | none =>
    cases hreported : (PlacedLine.mk above l).reported? with
    | none => rfl
    | some found =>
      rcases found with ⟨key, date⟩
      rcases reported?_eq_some.mp hreported with ⟨hkey, hdate⟩
      have hdue := dueDate?_of_latestDate? (hpending.symm.trans hdate)
      rw [promised?_eq_some.mpr ⟨parsedKey?_of_datableKey? hkey, hdue⟩] at hpromised
      cases hpromised

/-- Below a line that keeps its promise, the pass still keeps just that date. -/
theorem pendingDate?_eq_latestDate? (hpending : pendingDate? above = latestDate? above)
    (hkeeps : (PlacedLine.mk above l).KeepsPromise) :
    pendingDate? (l :: above) = latestDate? (l :: above) := by
  rw [pendingDate?_cons, latestDate?_cons]
  by_cases hann : annotates l
  · rw [parsedKey?_of_annotates hann, if_pos hann, if_pos hann]
    rfl
  rw [if_neg hann, if_neg hann]
  cases hparsed : parsedKey? l with
  | none =>
    rw [datableKey?_of_parsedKey?_eq_none hparsed]
    exact hpending
  | some key =>
    -- an assignment that the pass passes over would leave the date of a promise pending
    split
    next => rfl
    next hskipped =>
      cases hdate : pendingDate? above with
      | none => rfl
      | some date =>
        have hdue := dueDate?_of_latestDate? (hpending.symm.trans hdate)
        have hpromised : (PlacedLine.mk above l).promised? = some (key, date) :=
          promised?_eq_some.mpr ⟨hparsed, hdue⟩
        exact absurd (hkeeps (by rw [hpromised, Option.isSome_some])).1 hskipped

end PlacedLine

-- The invariant goes down the lines: below each the pass keeps the date of the last annotation.
theorem reported?_eq_promised?_of_keepsPromise {above ls : List Text}
    (hpending : pendingDate? above = latestDate? above)
    (hkeeps : ∀ p ∈ placeFrom above ls, p.KeepsPromise) :
    ∀ p ∈ placeFrom above ls, p.reported? = p.promised? := by
  induction ls generalizing above with
  | nil =>
    intro p hp
    cases hp
  | cons l ls ih =>
    rw [placeFrom, List.forall_mem_cons] at hkeeps ⊢
    exact ⟨PlacedLine.reported?_eq_promised? hpending hkeeps.1,
      ih (PlacedLine.pendingDate?_eq_latestDate? hpending hkeeps.1) hkeeps.2⟩

/-! ## 5. Promise and report -/

/-- What the pass reports is what the annotations promise, line by line, on exactly the files in
which every promise is kept: each line with a promise has its key directly before the `=`, and the
last annotation above it, since the assignment before, has a date that a calendar has.  On such a
file the warnings are those promised; on a file that assigns no key twice they are on no other. -/
theorem expiries_eq_promised_iff (raw : Text) :
    datedKeys raw = (placedLines raw).filterMap (·.reported?)
      ∧ ((∀ p ∈ placedLines raw, p.reported? = p.promised?)
          ↔ ∀ p ∈ placedLines raw, p.KeepsPromise)
      ∧ ((∀ p ∈ placedLines raw, p.KeepsPromise) →
          ∀ now, expiries raw now = promisedExpiries raw now)
      ∧ (((placedLines raw).filterMap fun p => parsedKey? p.text).Nodup →
          (datedKeys raw = promisedKeys raw ↔ ∀ p ∈ placedLines raw, p.KeepsPromise)) := by
  have hlines : (∀ p ∈ placedLines raw, p.reported? = p.promised?)
      ↔ ∀ p ∈ placedLines raw, p.KeepsPromise :=
    ⟨fun h p hp => PlacedLine.keepsPromise_of_eq (h p hp),
      reported?_eq_promised?_of_keepsPromise rfl⟩
  refine ⟨datedKeys_eq raw, hlines, fun hkeeps now => ?_, fun hnodup => ?_⟩
  · have hkeys : datedKeys raw = promisedKeys raw := by
      rw [datedKeys_eq]
      exact List.filterMap_congr (hlines.mpr hkeeps)
    rw [expiries, promisedExpiries, hkeys]
  · rw [datedKeys_eq, ← hlines]
    exact filterMap_eq_iff_of_nodup
      (fun p r hr => parsedKey?_of_datableKey? (PlacedLine.reported?_eq_some.mp hr).1)
      (fun p r hr => (PlacedLine.promised?_eq_some.mp hr).1) hnodup

/-- A blank before the `=` moves the date to the next key, and a date that no calendar has takes
the date before it back. -/
theorem expiries_ne_promised :
    let now := Instant.ofSeconds 1733011200 0
    let spaced := "# @expire 2024-12-31\nA = 1\nB=2\n".toList
    let undated := "# @expire 2024-12-31\n# @expire 2024-99-99\nK=1".toList
    expiries spaced now = [⟨"B".toList, "2024-12-31".toList, 30⟩]
      ∧ promisedExpiries spaced now = [⟨"A".toList, "2024-12-31".toList, 30⟩]
      ∧ expiries undated now = []
      ∧ promisedExpiries undated now = [⟨"K".toList, "2024-12-31".toList, 30⟩] := by
  decide +kernel

end EnvAudit
