import Mathlib.Data.List.Sort
import EnvAudit.Proofs.Source.NumberedLines
import EnvAudit.Proofs.Source.Reference
import EnvAudit.Proofs.Text.ByteTable

/-!
# Usages are occurrences

`scanUsages` looks for references row by row.  `scanUsages_eq_occurrences` says that nothing depends
on the rows: a usage is reported for every place of the text where a reference stands, unless its
row is ignored, and for no other place; the usages are listed form by form and by place; and a
search through the whole text, with every place looked up in the table of row beginnings, gives the
same list without a look-up that fails.
-/

namespace EnvAudit

variable (file content : Text) (form : AccessForm)

/-! ## 1. Usages and places -/

/-- The usage that is reported for a reference at the place between two parts of a text. -/
def usageAt (before after : Text) (value : Text × Option EnvModule) : Usage :=
  let row := Text.lastRow before ++ after.takeWhile (· ≠ '\n')
  { name := value.1
    file := file
    line := Text.lineAfter before
    column := Text.columnAfter before
    form := form
    context := Text.trim row
    isLogged := isLoggingLine row
    envModule := value.2 }

/-- The usage belongs to a reference of the form at a place of the text that is not ignored. -/
def IsFound (u : Usage) : Prop :=
  ∃ before after value, content = before ++ after
    ∧ (∃ rest, form.read? after = some (value, rest))
    ∧ isIgnoredRow (Text.rows content) (before.count '\n') = false
    ∧ u = usageAt file form before after value

/-- The order in which the forms are searched for. -/
def AccessForm.rank : AccessForm → Nat
  | .processEnv => 0
  | .importMetaEnv => 1
  | .svelteModule => 2

namespace Usage

/-- On an earlier line, or in an earlier column of the same line. -/
def IsAbove (u v : Usage) : Prop := u.line < v.line ∨ u.line = v.line ∧ u.column < v.column

/-- The order of a report: form by form, and by place within each. -/
def ComesBefore (u v : Usage) : Prop :=
  u.form.rank < v.form.rank ∨ u.form = v.form ∧ u.IsAbove v

theorem not_isAbove_self (u : Usage) : ¬ u.IsAbove u := by
  unfold IsAbove
  omega

theorem IsAbove.asymm {u v : Usage} (h : u.IsAbove v) : ¬ v.IsAbove u := by
  unfold IsAbove at h ⊢
  omega

instance : Std.Irrefl IsAbove := ⟨not_isAbove_self⟩

instance : Std.Antisymm IsAbove := ⟨fun _ _ h h' => absurd h' h.asymm⟩

end Usage

/-! ## 2. The search row by row -/

theorem mem_usagesOfForm (u : Usage) :
    u ∈ usagesOfForm file form (numberLines (Text.rows content)) ↔ IsFound file content form u := by
  unfold usagesOfForm usagesOnLine
  simp only [List.mem_flatMap, List.mem_filter, List.mem_map, mem_numberLines,
    Text.mem_matchesOf form.beginsWith_read?]
  constructor
  · intro h
    rcases h with
      ⟨_, ⟨⟨i, _, hrow, rfl⟩, hkept⟩, ⟨_, value⟩, ⟨front, back, rest, rfl, rfl, hread⟩, rfl⟩
    -- the split of the row at the success is the split of the text at a place on that row
    rcases Text.exists_place_of_rows hrow with ⟨before, after, rfl, rfl, rfl, rfl⟩
    have hread' := (form.read?_takeWhile after value).mp ⟨rest, hread⟩
    exact ⟨before, after, value, rfl, hread', by simpa using hkept, rfl⟩
  · intro h
    rcases h with ⟨before, after, value, rfl, hread, hkept, rfl⟩
    have hrow := Text.rows_getElem?_append before after
    rcases (form.read?_takeWhile after value).mpr hread with ⟨rest, hread'⟩
    exact ⟨_, ⟨⟨_, _, hrow, rfl⟩, by simpa using hkept⟩, ⟨(Text.lastRow before).length, value⟩,
      ⟨_, _, rest, rfl, rfl, hread'⟩, rfl⟩

theorem pairwise_usagesOfForm :
    (usagesOfForm file form (numberLines (Text.rows content))).Pairwise Usage.IsAbove := by
  unfold usagesOfForm
  -- columns grow along a row, line numbers from row to row
  rw [List.pairwise_flatMap]
  constructor
  · intro line _
    unfold usagesOnLine
    rw [List.pairwise_map]
    refine (Text.pairwise_matchesOf _ line.text).imp ?_
    intro m n hmn
    exact Or.inr ⟨rfl, Nat.succ_lt_succ hmn⟩
  · refine ((pairwise_numberLines _).filter _).imp ?_
    intro k l hkl u hu v hv
    rcases List.mem_map.mp hu with ⟨_, _, rfl⟩
    rcases List.mem_map.mp hv with ⟨_, _, rfl⟩
    exact Or.inl hkl

/-! ## 3. The search through the whole text -/

/-- The usage for a success in the whole text, unless its row is ignored. -/
def usagesOfMatch (m : Text.Match (Text × Option EnvModule)) : List Usage :=
  if isIgnoredRow (Text.rows content) ((content.take m.offset).count '\n') then []
  else [usageAt file form (content.take m.offset) (content.drop m.offset) m.value]

/-- The usage for a success in the whole text, with its row and column taken from the table. -/
def lookUpUsages? (m : Text.Match (Text × Option EnvModule)) : Option (List Usage) := do
  let (row, column) ← Text.locate? content (Text.byteLength (content.take m.offset))
  if isIgnoredRow (Text.rows content) row then return []
  let text := (Text.rows content)[row]?.getD []
  return [{ name := m.value.1
            file := file
            line := row + 1
            column := column
            form := form
            context := Text.trim text
            isLogged := isLoggingLine text
            envModule := m.value.2 }]

/-- The usages in a file by a search through the whole text, form by form; `none` if the look-up of
a place fails. -/
def scanByTable? (file content : Text) : Option (List Usage) := do
  let found ← [AccessForm.processEnv, .importMetaEnv, .svelteModule].mapM fun form =>
    (Text.matchesOf (fun _ s => form.read? s) content).mapM (lookUpUsages? file content form)
  return (found.map List.flatten).flatten

theorem lookUpUsages?_eq (m : Text.Match (Text × Option EnvModule)) :
    lookUpUsages? file content form m = some (usagesOfMatch file content form m) := by
  have hplace := Text.locate?_append (content.take m.offset) (content.drop m.offset)
  have hrow := Text.rows_getElem?_append (content.take m.offset) (content.drop m.offset)
  rw [List.take_append_drop] at hplace hrow
  -- with row and column at hand, both sides make the same usage of the same row
  unfold lookUpUsages? usagesOfMatch usageAt
  rw [hplace]
  simp only [Option.bind_eq_bind, Option.bind_some, Option.pure_def, hrow, Option.getD_some]
  split
  · rfl
  · rfl

theorem mem_usagesOfMatch {u : Usage} {m : Text.Match (Text × Option EnvModule)} :
    u ∈ usagesOfMatch file content form m
      ↔ isIgnoredRow (Text.rows content) ((content.take m.offset).count '\n') = false
        ∧ u = usageAt file form (content.take m.offset) (content.drop m.offset) m.value := by
  unfold usagesOfMatch
  split
  next h => simp [h]
  next h => simp [h]

theorem mem_flatMap_usagesOfMatch (u : Usage) :
    u ∈ (Text.matchesOf (fun _ s => form.read? s) content).flatMap (usagesOfMatch file content form)
      ↔ IsFound file content form u := by
  simp only [List.mem_flatMap, Text.mem_matchesOf form.beginsWith_read?, mem_usagesOfMatch]
  constructor
  · intro h
    rcases h with ⟨⟨_, value⟩, ⟨before, after, rest, rfl, rfl, hread⟩, hkept, hu⟩
    rw [List.take_left] at hkept hu
    rw [List.drop_left] at hu
    exact ⟨before, after, value, rfl, ⟨rest, hread⟩, hkept, hu⟩
  · intro h
    rcases h with ⟨before, after, value, rfl, ⟨rest, hread⟩, hkept, hu⟩
    refine ⟨⟨before.length, value⟩, ⟨before, after, rest, rfl, rfl, hread⟩, ?_⟩
    rw [List.take_left, List.drop_left]
    exact ⟨hkept, hu⟩

theorem pairwise_usagesOfMatch :
    ((Text.matchesOf (fun _ s => form.read? s) content).flatMap
      (usagesOfMatch file content form)).Pairwise Usage.IsAbove := by
  rw [List.pairwise_flatMap]
  constructor
  · intro m _
    unfold usagesOfMatch
    split
    · exact List.Pairwise.nil
    · exact List.pairwise_singleton _ _
  · refine List.Pairwise.imp_of_mem ?_ (Text.pairwise_matchesOf _ content)
    intro m n _ hn hmn u hu v hv
    -- the later place is the earlier one with some more text before it
    rcases (Text.mem_matchesOf form.beginsWith_read? _ n).mp hn with
      ⟨before, after, _, rfl, hoffset, _⟩
    rw [hoffset] at hmn
    have hpos : 0 < (before.drop m.offset).length := by
      rw [List.length_drop]
      omega
    have hlt := Text.place_lt (before.take m.offset) (List.ne_nil_of_length_pos hpos)
    rcases (mem_usagesOfMatch _ _ _).mp hu with ⟨_, rfl⟩
    rcases (mem_usagesOfMatch _ _ _).mp hv with ⟨_, rfl⟩
    rw [List.take_append_drop] at hlt
    rw [hoffset, List.take_left, List.take_append_of_le_length (Nat.le_of_lt hmn)]
    exact hlt

-- Both searches list the same usages in the same strict order, so they return the same list.
theorem flatMap_usagesOfMatch :
    (Text.matchesOf (fun _ s => form.read? s) content).flatMap (usagesOfMatch file content form)
      = usagesOfForm file form (numberLines (Text.rows content)) := by
  refine (pairwise_usagesOfMatch file content form).eq_of_mem_iff
    (pairwise_usagesOfForm file content form) fun u => ?_
  rw [mem_flatMap_usagesOfMatch, mem_usagesOfForm]

theorem scanByTable?_eq : scanByTable? file content = some (scanUsages file content) := by
  have hform (form : AccessForm) :
      (Text.matchesOf (fun _ s => form.read? s) content).mapM (lookUpUsages? file content form)
        = pure ((Text.matchesOf (fun _ s => form.read? s) content).map
            (usagesOfMatch file content form)) := by
    rw [funext (lookUpUsages?_eq file content form)]
    exact List.mapM_pure
  unfold scanByTable?
  simp only [hform, List.mapM_pure]
  show some _ = some _
  rw [List.map_map, ← List.flatMap_def, scanUsages]
  congr 2
  funext form
  rw [← flatMap_usagesOfMatch, List.flatMap_def]
  rfl

/-! ## 4. The usages in a file -/

theorem mem_scanUsages (u : Usage) :
    u ∈ scanUsages file content ↔ ∃ form, IsFound file content form u := by
  unfold scanUsages
  simp only [List.mem_flatMap, mem_usagesOfForm]
  constructor
  · intro h
    rcases h with ⟨form, _, hfound⟩
    exact ⟨form, hfound⟩
  · intro h
    rcases h with ⟨form, hfound⟩
    exact ⟨form, by cases form <;> decide, hfound⟩

variable {file content} in
theorem isPlainName_of_mem_scanUsages {u : Usage} (h : u ∈ scanUsages file content) :
    IsPlainName u.name := by
  obtain ⟨form, _, _, ⟨name, _⟩, _, ⟨_, hread⟩, _, rfl⟩ := (mem_scanUsages file content u).mp h
  obtain ⟨_, _, hword, _⟩ := AccessForm.read?_eq_some.mp hread
  exact hword.isPlainName

theorem pairwise_scanUsages : (scanUsages file content).Pairwise Usage.ComesBefore := by
  have hform {form : AccessForm} {u : Usage}
      (hu : u ∈ usagesOfForm file form (numberLines (Text.rows content))) : u.form = form := by
    rcases (mem_usagesOfForm file content form u).mp hu with ⟨_, _, _, _, _, _, rfl⟩
    rfl
  have hranks : [AccessForm.processEnv, .importMetaEnv, .svelteModule].Pairwise
      fun a b => a.rank < b.rank := by decide
  unfold scanUsages
  rw [List.pairwise_flatMap]
  constructor
  · intro form _
    refine List.Pairwise.imp_of_mem ?_ (pairwise_usagesOfForm file content form)
    intro u v hu hv huv
    exact Or.inr ⟨(hform hu).trans (hform hv).symm, huv⟩
  · refine hranks.imp ?_
    intro a b hab u hu v hv
    rw [← hform hu, ← hform hv] at hab
    exact Or.inl hab

/-- A usage is reported exactly where a reference stands and neither its row nor the one above is
marked, whatever the form of the reference.  The list is in strict order, so no place is reported
twice, and the search with the table of row beginnings returns it without a look-up that fails. -/
theorem scanUsages_eq_occurrences :
    (∀ u, u ∈ scanUsages file content
        ↔ ∃ form name envModule before word rest, content = before ++ (word ++ rest)
            ∧ AccessForm.Spells form name envModule word ∧ form.endsBefore rest
            ∧ isIgnoredRow (Text.rows content) (before.count '\n') = false
            ∧ u = usageAt file form before (word ++ rest) (name, envModule))
      ∧ (scanUsages file content).Pairwise Usage.ComesBefore
      ∧ scanByTable? file content = some (scanUsages file content) := by
  refine ⟨fun u => ?_, pairwise_scanUsages file content, scanByTable?_eq file content⟩
  rw [mem_scanUsages]
  constructor
  · intro h
    rcases h with ⟨form, before, after, ⟨name, envModule⟩, hsplit, ⟨rest, hread⟩, hkept, hu⟩
    rcases AccessForm.read?_eq_some.mp hread with ⟨word, rfl, hword, hrest⟩
    exact ⟨form, name, envModule, before, word, rest, hsplit, hword, hrest, hkept, hu⟩
  · intro h
    rcases h with ⟨form, name, envModule, before, word, rest, hsplit, hword, hrest, hkept, hu⟩
    have hread := AccessForm.read?_eq_some.mpr ⟨word, rfl, hword, hrest⟩
    exact ⟨form, before, word ++ rest, (name, envModule), hsplit, ⟨rest, hread⟩, hkept, hu⟩

end EnvAudit
