import EnvAudit.Env.Filter
import EnvAudit.Proofs.Env.RoundTrip
import EnvAudit.Proofs.Text.Returns

/-!
# Appending to an env file

`appendBindings` writes bindings on lines of their own behind a file, whatever the file ends with.
Read back, they come after the assignments of the file (`assignments_appendBindings`); so the map
has them set last, and new keys make no key of the file a repeated one.
-/

namespace EnvAudit

/-! ## 1. Lines behind a file -/

/-- The file with a line end and then the bindings, each on a line. -/
def appendBindings (raw : Text) (bs : List Binding) : Text := raw ++ '\n' :: writeEnv bs

theorem assignment?_dropReturn (l : Text) : assignment? (Text.dropReturn l) = assignment? l := by
  have htrim : Text.trim (Text.dropReturn l) = Text.trim l :=
    (Text.trim_eq_of_gainsReturn (Text.gainsReturn_dropReturn l)).symm
  simp only [assignment?, htrim]

/-- The last row assigns the same whether or not a line end comes behind it. -/
theorem filterMap_assignment?_endLines (rs : List Text) :
    (Text.endLines rs).filterMap assignment?
      = (rs.map Text.dropReturn).filterMap assignment? := by
  fun_induction Text.endLines rs with
  | case1 => rfl
  | case2 l hempty =>
    rw [List.isEmpty_iff.mp hempty]
    rfl
  | case3 l _ => simp [List.filterMap_cons, assignment?_dropReturn]
  | case4 l ls _ ih => simp [List.filterMap_cons, ih]

theorem assignments_append_newline (raw more : Text) :
    assignments (raw ++ '\n' :: more)
      = assignments raw ++ (Text.lines more).filterMap assignment? := by
  -- marks are dropped in front of the file only: the line end is none
  have hmarks : (raw ++ '\n' :: more).dropWhile (· = '\uFEFF')
      = raw.dropWhile (· = '\uFEFF') ++ '\n' :: more := by
    rw [List.dropWhile_append]
    split
    next hall =>
      rw [List.isEmpty_iff.mp hall]
      rfl
    next => rfl
  unfold assignments envLines
  rw [hmarks, Text.lines_eq_rows, Text.lines_eq_rows, Text.rows_append_newline,
    Text.endLines_append _ (Text.rows_ne_nil more), List.filterMap_append,
    ← filterMap_assignment?_endLines, Text.lines_eq_rows]

variable {bs : List Binding}

theorem assignments_appendBindings (h : ∀ b ∈ bs, IsWritable b) (raw : Text) :
    assignments (appendBindings raw bs) = assignments raw ++ bs := by
  rw [appendBindings, assignments_append_newline, lines_writeEnv h,
    filterMap_assignment?_writeLine h]

/-! ## 2. The map and the repeated keys -/

theorem apply_parse_appendBindings (h : ∀ b ∈ bs, IsWritable b) {f : KeyFilter}
    (hkept : ∀ b ∈ bs, f.keeps b.1) (raw : Text) :
    f.apply (.parse (appendBindings raw bs)) = (f.apply (.parse raw)).insertAll bs := by
  unfold KeyFilter.apply EnvMap.parse
  rw [assignments_appendBindings h, EnvMap.ofList_append, EnvMap.filterKeys_insertAll hkept]

theorem duplicates_appendBindings (h : ∀ b ∈ bs, IsWritable b) (hnodup : (bs.map Prod.fst).Nodup)
    {raw : Text} (hnew : ∀ b ∈ bs, b.1 ∉ (EnvMap.parse raw).keys) :
    duplicates (appendBindings raw bs) = duplicates raw := by
  have hfresh : ∀ key ∈ bs.map Prod.fst, key ∉ (assignments raw).map Prod.fst := by
    intro key hkey hold
    obtain ⟨b, hb, rfl⟩ := List.mem_map.mp hkey
    rw [EnvMap.parse, EnvMap.keys_ofList] at hnew
    exact hnew b hb (mem_firsts.mpr hold)
  unfold duplicates
  rw [assignments_appendBindings h, List.map_append]
  generalize (assignments raw).map Prod.fst = keys at hfresh ⊢
  generalize bs.map Prod.fst = added at hnodup hfresh ⊢
  -- the keys of the file occur as often as before, and each new one occurs once
  have hold : (firsts keys).map (fun k => Duplicate.mk k ((keys ++ added).count k))
      = (firsts keys).map fun k => ⟨k, keys.count k⟩ := by
    refine List.map_congr_left fun k hk => ?_
    have hnone : added.count k = 0 :=
      List.count_eq_zero_of_not_mem fun hmem => hfresh k hmem (mem_firsts.mp hk)
    rw [List.count_append, hnone, Nat.add_zero]
  have hadded : (added.map fun k => Duplicate.mk k ((keys ++ added).count k)).filter
      (fun d => 1 < d.count) = [] := by
    rw [List.filter_eq_nil_iff, List.forall_mem_map]
    intro k hk
    rw [List.count_append, List.count_eq_zero_of_not_mem (hfresh k hk),
      List.count_eq_one_of_mem hnodup hk]
    simp
  simp only [firsts_append_of_disjoint hnodup hfresh, List.map_append, List.filter_append, hold,
    hadded, List.append_nil]

end EnvAudit
