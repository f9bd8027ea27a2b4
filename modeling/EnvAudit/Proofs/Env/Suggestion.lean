import EnvAudit.Proofs.Env.Lookup
import EnvAudit.Proofs.Env.Respelling
import EnvAudit.Proofs.Env.RoundTrip
import EnvAudit.Proofs.Text.Utf8

/-!
# Names renamed as suggested

The suggestion for a misnamed key is its respelling.  Of each character on its own it can be said
whether its respelling keeps to UPPER_SNAKE_CASE (`forall_mem_respellChar_iff`): dashes and white
space become underscores, and beside the letters, digits and underscores of ASCII the tables of
upper case lead into ASCII from ten characters only (`forall_mem_upperChar_iff`).  Everything else,
dots among it, leaves something foreign in the suggestion, and a key that has any of it is warned
about again once it is renamed (`misnamed_respelled_iff`).
-/

namespace EnvAudit

/-! ## 1. Upper case within ASCII -/

/-- The numbers of a table that is given by its characters. -/
theorem hexCodes_ofList (l : List Char) :
    hexCodes (String.ofList l) = (CharSet.tableWordsFrom [] l).map CharSet.hexNumber := by
  rw [hexCodes, CharSet.tableWords, String.toList_ofList]

/-- The characters beyond ASCII whose upper case is ASCII capitals: the sharp s, the i without a
dot, the long s and the ligatures of f and of s with t. -/
def asciiInUpper : List Char :=
  ['\u00DF', '\u0131', '\u017F', '\uFB00', '\uFB01', '\uFB02', '\uFB03', '\uFB04', '\uFB05',
    '\uFB06']

set_option maxRecDepth 100000 in
theorem forall_upperExpansions : ∀ e ∈ Unicode.upperExpansions,
    e.2 ≠ []
      ∧ ((∀ d ∈ e.2, isUpperSnakeChar (Char.ofNat d)) → Char.ofNat e.1 ∈ asciiInUpper) := by
  -- the characters take the place of the literal, which would be taken apart at every step
  have htable : Unicode.upperExpansions = Unicode.expansionsOfCodes _ :=
    congrArg Unicode.expansionsOfCodes (hexCodes_ofList _)
  rw [htable]
  decide +kernel

set_option maxRecDepth 100000 in
/-- A run that leads into ASCII is of one character. -/
theorem forall_upperRuns : ∀ r ∈ Unicode.upperRuns,
    r.target < 128 → r.first = r.last ∧ Char.ofNat r.first ∈ asciiInUpper := by
  have htable : Unicode.upperRuns = Unicode.CaseRun.ofCodes _ :=
    congrArg Unicode.CaseRun.ofCodes (hexCodes_ofList _)
  rw [htable]
  decide +kernel

theorem forall_asciiInUpper_le : ∀ c ∈ asciiInUpper, 128 ≤ c.toNat := by
  -- the ten are gone through as a list, not as some of all characters there are
  have hall : asciiInUpper.all (fun c => decide (128 ≤ c.toNat)) := by decide
  exact fun c hc => of_decide_eq_true (List.all_eq_true.mp hall c hc)

set_option maxRecDepth 100000 in
theorem forall_asciiInUpper :
    ∀ c ∈ asciiInUpper, ∀ n ∈ Unicode.caseImage Unicode.upperRuns Unicode.upperExpansions c.toNat,
      isUpperSnakeChar (Char.ofNat n) := by
  have hexpansions : Unicode.upperExpansions = Unicode.expansionsOfCodes _ :=
    congrArg Unicode.expansionsOfCodes (hexCodes_ofList _)
  have hruns : Unicode.upperRuns = Unicode.CaseRun.ofCodes _ :=
    congrArg Unicode.CaseRun.ofCodes (hexCodes_ofList _)
  have hall : asciiInUpper.all fun c =>
      (Unicode.caseImage Unicode.upperRuns Unicode.upperExpansions c.toNat).all fun n =>
        isUpperSnakeChar (Char.ofNat n) := by
    rw [hexpansions, hruns]
    decide +kernel
  exact fun c hc => List.all_eq_true.mp (List.all_eq_true.mp hall c hc)

/-! ## 2. Characters -/

theorem isUpperSnakeChar_iff {c : Char} :
    isUpperSnakeChar c
      ↔ (65 ≤ c.toNat ∧ c.toNat ≤ 90) ∨ (48 ≤ c.toNat ∧ c.toNat ≤ 57) ∨ c = '_' := by
  rw [isUpperSnakeChar, Bool.or_eq_true, Bool.or_eq_true, isAsciiUpper_iff, isAsciiDigit_iff,
    beq_iff_eq, or_assoc]

theorem isNameChar_of_isUpperSnakeChar {c : Char} (h : isUpperSnakeChar c) : isNameChar c := by
  rw [isNameChar_iff]
  rcases isUpperSnakeChar_iff.mp h with hc | hc | rfl
  · exact Or.inl hc
  · exact Or.inr (Or.inr (Or.inl hc))
  · exact Or.inr (Or.inr (Or.inr rfl))

/-- A code point of UPPER_SNAKE_CASE is one of ASCII. -/
theorem lt_of_isUpperSnakeChar_ofNat {n : Nat} (h : isUpperSnakeChar (Char.ofNat n)) : n < 128 := by
  have hlt := toNat_lt_of_isNameChar (isNameChar_of_isUpperSnakeChar h)
  by_cases hvalid : n.isValidChar
  · rwa [Text.toNat_ofNat hvalid] at hlt
  · -- a number that is no code point stands for the first one
    rw [Char.ofNat, dif_neg hvalid] at h
    exact absurd h (by decide)

theorem isUpperSnakeChar_toUpper {c : Char} (h : c.toNat < 128) :
    isUpperSnakeChar c.toUpper ↔ isNameChar c := by
  have hall : ∀ n < 128,
      isUpperSnakeChar (Char.ofNat n).toUpper = isNameChar (Char.ofNat n) := by decide
  have hc := hall c.toNat h
  rw [Char.ofNat_toNat] at hc
  rw [hc]

theorem mem_asciiInUpper_of_forall {c : Char} (hc : ¬ c.toNat < 128)
    (h : ∀ d ∈ Unicode.upperChar c, isUpperSnakeChar d) : c ∈ asciiInUpper := by
  rw [Unicode.upperChar, if_neg hc, List.forall_mem_map, Unicode.caseImage] at h
  split at h
  next image himage =>
    have hmem := (forall_upperExpansions _ (mem_of_lookup himage)).2 h
    rwa [Char.ofNat_toNat] at hmem
  next =>
    rw [List.forall_mem_singleton] at h
    have hlt := lt_of_isUpperSnakeChar_ofNat h
    cases hrun : Unicode.upperRuns.findSome? (·.image? c.toNat) with
    | none =>
      rw [hrun] at hlt
      exact absurd hlt hc
    | some n =>
      rw [hrun, Option.getD_some] at hlt
      obtain ⟨r, hr, himage⟩ := List.exists_of_findSome?_eq_some hrun
      rw [Unicode.CaseRun.image?, Option.ite_none_right_eq_some] at himage
      obtain ⟨hin, himage⟩ := himage
      simp only [Bool.and_eq_true, decide_eq_true_eq, Option.some.injEq] at hin himage
      obtain ⟨hone, hmem⟩ := forall_upperRuns r hr (by omega)
      have hfirst : r.first = c.toNat := by omega
      rwa [hfirst, Char.ofNat_toNat] at hmem

/-- What upper case makes a text of UPPER_SNAKE_CASE. -/
theorem forall_mem_upperChar_iff {c : Char} :
    (∀ d ∈ Unicode.upperChar c, isUpperSnakeChar d) ↔ isNameChar c ∨ c ∈ asciiInUpper := by
  by_cases hc : c.toNat < 128
  · have hnot : c ∉ asciiInUpper := fun hmem =>
      Nat.not_lt.mpr (forall_asciiInUpper_le c hmem) hc
    rw [upperChar_of_lt hc, List.forall_mem_singleton, isUpperSnakeChar_toUpper hc,
      or_iff_left hnot]
  · have hnot : ¬ isNameChar c := mt toNat_lt_of_isNameChar hc
    rw [or_iff_right hnot]
    refine ⟨mem_asciiInUpper_of_forall hc, fun hmem => ?_⟩
    rw [Unicode.upperChar, if_neg hc, List.forall_mem_map]
    exact forall_asciiInUpper c hmem

theorem upperChar_ne_nil (c : Char) : Unicode.upperChar c ≠ [] := by
  rw [Unicode.upperChar]
  split
  next => exact List.cons_ne_nil _ _
  next =>
    rw [Unicode.caseImage, ne_eq, List.map_eq_nil_iff]
    split
    next image himage => exact (forall_upperExpansions _ (mem_of_lookup himage)).1
    next => exact List.cons_ne_nil _ _

/-! ## 3. Names -/

/-- The respelling of the character is in UPPER_SNAKE_CASE. -/
def IsRespellable (c : Char) : Prop := isNameSeparator c ∨ isNameChar c ∨ c ∈ asciiInUpper

instance (c : Char) : Decidable (IsRespellable c) := inferInstanceAs (Decidable (_ ∨ _ ∨ _))

theorem forall_mem_respellChar_iff {before : Option Char} {c : Char} :
    (∀ d ∈ respellChar before c, isUpperSnakeChar d) ↔ IsRespellable c := by
  have hunderscore : isUpperSnakeChar '_' := by decide
  unfold respellChar IsRespellable
  by_cases hc : isNameSeparator c
  · by_cases hbefore : before.any isNameSeparator <;> simp [hc, hbefore, hunderscore]
  · rw [or_iff_right hc, ← forall_mem_upperChar_iff, if_neg hc]
    split
    next => rw [List.forall_mem_cons, and_iff_right hunderscore]
    next => rfl

theorem forall_mem_respellFrom_iff {before : Option Char} {s : Text} :
    (∀ d ∈ respellFrom before s, isUpperSnakeChar d) ↔ ∀ c ∈ s, IsRespellable c := by
  induction s generalizing before with
  | nil => simp [respellFrom]
  | cons c s ih =>
    rw [respellFrom, List.forall_mem_append, forall_mem_respellChar_iff, ih, List.forall_mem_cons]

theorem upperSnake_ne_nil {name : Text} (h : name ≠ []) : upperSnake name ≠ [] := by
  obtain ⟨c, s, rfl⟩ := List.exists_cons_of_ne_nil h
  rw [upperSnake_eq, respellFrom, respellChar]
  by_cases hc : isNameSeparator c
  · simp [hc]
  · simp [hc, upperChar_ne_nil]

theorem isUpperSnake_iff {name : Text} :
    isUpperSnake name ↔ name ≠ [] ∧ ∀ c ∈ name, isUpperSnakeChar c := by
  rw [isUpperSnake, Bool.and_eq_true, Bool.not_eq_true', List.isEmpty_eq_false_iff,
    List.all_eq_true]

/-- A respelled name is in UPPER_SNAKE_CASE if each of its characters is. -/
theorem isUpperSnake_upperSnake_iff {name : Text} (h : name ≠ []) :
    isUpperSnake (upperSnake name) ↔ ∀ c ∈ name, IsRespellable c := by
  rw [isUpperSnake_iff, and_iff_right (upperSnake_ne_nil h), upperSnake_eq,
    forall_mem_respellFrom_iff]

theorem mem_misnamed {names : List Text} {w : MisnamedKey} :
    w ∈ misnamed names
      ↔ w.key ∈ names ∧ isUpperSnake w.key = false ∧ w.suggestion = upperSnake w.key := by
  obtain ⟨key, suggestion⟩ := w
  simp only [misnamed, List.mem_map, List.mem_filter, mem_firsts, Bool.not_eq_true',
    MisnamedKey.mk.injEq]
  constructor
  · rintro ⟨n, ⟨hn, hcase⟩, rfl, rfl⟩
    exact ⟨hn, hcase, rfl⟩
  · rintro ⟨hn, hcase, hsuggestion⟩
    exact ⟨key, ⟨hn, hcase⟩, rfl, hsuggestion.symm⟩

theorem misnamed_eq_nil_iff {names : List Text} :
    misnamed names = [] ↔ ∀ n ∈ names, isUpperSnake n := by
  rw [misnamed, List.map_eq_nil_iff, List.filter_eq_nil_iff]
  simp

/-! ## 4. Env files -/

/-- The binding with its key renamed as suggested, if a name like that is warned about. -/
def respelled (b : Binding) : Binding :=
  (if isUpperSnake b.1 then b.1 else upperSnake b.1, b.2)

theorem isWritable_of_isUpperSnake {b : Binding} (hkey : isUpperSnake b.1)
    (htrim : Text.trim b.2 = b.2) (hnewline : '\n' ∉ b.2) : IsWritable b := by
  obtain ⟨hne, hall⟩ := isUpperSnake_iff.mp hkey
  have hnot {c : Char} (hc : isUpperSnakeChar c = false) : c ∉ b.1 := fun hmem => by
    rw [hall c hmem] at hc
    cases hc
  exact {
    key_ne_nil := hne
    trim_key := Text.trim_eq_self fun c hc =>
      not_isBlank_of_isNameChar (isNameChar_of_isUpperSnakeChar (hall c hc))
    equals_not_mem := hnot (by decide)
    newline_not_mem_key := hnot (by decide)
    not_comment := fun hhead => hnot (by decide) (List.mem_of_mem_head? hhead)
    trim_value := htrim
    newline_not_mem_value := hnewline }

/-- Bindings of names in UPPER_SNAKE_CASE are read from the file they are written to. -/
theorem parse_writeEnv_of_isUpperSnake {bs : List Binding} (hkeys : ∀ b ∈ bs, isUpperSnake b.1)
    (hvalues : ∀ b ∈ bs, Text.trim b.2 = b.2 ∧ '\n' ∉ b.2) :
    EnvMap.parse (writeEnv bs) = EnvMap.ofList bs := by
  have hwritable : ∀ b ∈ bs, IsWritable b := fun b hb =>
    isWritable_of_isUpperSnake (hkeys b hb) (hvalues b hb).1 (hvalues b hb).2
  have hmark : IsUnmarked bs := by
    intro b hb hhead
    have hall := (isUpperSnake_iff.mp (hkeys b (List.mem_of_mem_head? hb))).2
    exact absurd (hall '\uFEFF' (List.mem_of_mem_head? hhead)) (by decide)
  rw [EnvMap.parse, assignments_writeEnv hwritable hmark]

variable {raw : Text}

/-- A key that is warned about is settled by its suggestion if each of its characters is. -/
theorem isUpperSnake_suggestion_iff {w : MisnamedKey} (h : w ∈ misnamed (EnvMap.parse raw).keys) :
    isUpperSnake w.suggestion ↔ ∀ c ∈ w.key, IsRespellable c := by
  obtain ⟨hkey, -, hsuggestion⟩ := mem_misnamed.mp h
  obtain ⟨b, hb, hname⟩ := List.mem_map.mp hkey
  have hne : w.key ≠ [] := hname ▸ (isWritable_of_mem_parse hb).key_ne_nil
  rw [hsuggestion, isUpperSnake_upperSnake_iff hne]

theorem isUpperSnake_respelled_iff :
    (∀ b ∈ (EnvMap.parse raw).entries, isUpperSnake (respelled b).1)
      ↔ ∀ w ∈ misnamed (EnvMap.parse raw).keys, isUpperSnake w.suggestion := by
  constructor
  · intro h w hw
    obtain ⟨hkey, hcase, hsuggestion⟩ := mem_misnamed.mp hw
    obtain ⟨b, hb, hname⟩ := List.mem_map.mp hkey
    have hsettled := h b hb
    rw [respelled, hname, hcase] at hsettled
    rw [hsuggestion]
    exact hsettled
  · intro h b hb
    unfold respelled
    by_cases hcase : isUpperSnake b.1
    · rwa [if_pos hcase]
    · rw [if_neg hcase]
      exact h ⟨b.1, upperSnake b.1⟩
        (mem_misnamed.mpr ⟨List.mem_map_of_mem hb, Bool.eq_false_iff.mpr hcase, rfl⟩)

/-- Following the suggestions settles the warnings about an env file just if the keys that are
warned about are made of ASCII letters and digits, underscores, dashes, white space and the few
letters whose upper case is ASCII: each such key has a suggestion in UPPER_SNAKE_CASE, no other
has, and the file with the keys renamed is without a warning. -/
theorem misnamed_respelled_iff (raw : Text) :
    let m := EnvMap.parse raw
    (∀ w ∈ misnamed m.keys, (isUpperSnake w.suggestion ↔ ∀ c ∈ w.key, IsRespellable c))
      ∧ (misnamed (EnvMap.ofList (m.entries.map respelled)).keys = []
        ↔ ∀ w ∈ misnamed m.keys, ∀ c ∈ w.key, IsRespellable c)
      ∧ ((∀ w ∈ misnamed m.keys, ∀ c ∈ w.key, IsRespellable c) →
        misnamed (EnvMap.parse (writeEnv (m.entries.map respelled))).keys = []) := by
  intro m
  have heach : ∀ w ∈ misnamed m.keys, (isUpperSnake w.suggestion ↔ ∀ c ∈ w.key, IsRespellable c) :=
    fun w hw => isUpperSnake_suggestion_iff hw
  have hrenamed : (∀ b ∈ m.entries, isUpperSnake (respelled b).1)
      ↔ ∀ w ∈ misnamed m.keys, ∀ c ∈ w.key, IsRespellable c := by
    rw [isUpperSnake_respelled_iff]
    exact forall₂_congr heach
  have hmap : misnamed (EnvMap.ofList (m.entries.map respelled)).keys = []
      ↔ ∀ w ∈ misnamed m.keys, ∀ c ∈ w.key, IsRespellable c := by
    rw [misnamed_eq_nil_iff, EnvMap.keys_ofList, ← hrenamed]
    simp only [mem_firsts, List.map_map, List.forall_mem_map, Function.comp_apply]
  refine ⟨heach, hmap, fun h => ?_⟩
  have hkeys : ∀ b ∈ m.entries.map respelled, isUpperSnake b.1 :=
    List.forall_mem_map.mpr (hrenamed.mpr h)
  have hvalues : ∀ b ∈ m.entries.map respelled, Text.trim b.2 = b.2 ∧ '\n' ∉ b.2 := by
    refine List.forall_mem_map.mpr fun b hb => ?_
    have hb' := isWritable_of_mem_parse hb
    exact ⟨hb'.trim_value, hb'.newline_not_mem_value⟩
  rw [parse_writeEnv_of_isUpperSnake hkeys hvalues]
  exact hmap.mpr h

/-- A dot stays where it is: the suggestion for `a.b` is `A.B`, and the file renamed so is warned
about with the same suggestion. -/
theorem not_isUpperSnake_suggestion_dot :
    let raw := "a.b=1".toList
    let w : MisnamedKey := ⟨"a.b".toList, "A.B".toList⟩
    misnamed (EnvMap.parse raw).keys = [w] ∧ isUpperSnake w.suggestion = false
      ∧ writeEnv ((EnvMap.parse raw).entries.map respelled) = "A.B=1\n".toList
      ∧ misnamed (EnvMap.parse "A.B=1\n".toList).keys = [⟨w.suggestion, w.suggestion⟩]
      ∧ ¬ ∀ raw, ∀ w ∈ misnamed (EnvMap.parse raw).keys, isUpperSnake w.suggestion := by
  intro raw w
  have hwarned : misnamed (EnvMap.parse raw).keys = [w] := by decide
  have hcase : isUpperSnake w.suggestion = false := by decide
  refine ⟨hwarned, hcase, by decide, by decide, fun h => ?_⟩
  have hsettled := h raw w (hwarned ▸ List.mem_singleton_self w)
  rw [hcase] at hsettled
  cases hsettled

end EnvAudit
