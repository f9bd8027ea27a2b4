import EnvAudit.Config
import EnvAudit.Proofs.Lists

/-!
# Values at their places

Settings and weights are read alike.  The names have an order, a record is the list of its values in
that order, and a member has its value read into the place of its name.  As no name occurs twice,
the order of the members does not show: `fill_eq_some_iff` has each value from the one member of its
name, and `exists_fill_iff` says when all values can be read.
-/

namespace EnvAudit

/-- The values with those of the members read into the places of their names; a member of another
name is passed over. -/
def fill {α : Type} (names : List Text) (read : Nat → JsonSyntax → Option α) (values : List α) :
    List (Text × JsonSyntax) → Option (List α)
  | [] => some values
  | (name, j) :: ms =>
    match names.idxOf? name with
    | none => fill names read values ms
    | some place => (read place j).bind fun v => fill names read (values.set place v) ms

/-- At the place of the name is what the member of that name gives, or the old value if there is no
such member. -/
def FilledAt {α : Type} (read : Nat → JsonSyntax → Option α) (values values' : List α)
    (ms : List (Text × JsonSyntax)) (place : Nat) (name : Text) : Prop :=
  (∃ j v, (name, j) ∈ ms ∧ read place j = some v ∧ values'[place]? = some v)
    ∨ (name ∉ ms.map Prod.fst ∧ values'[place]? = values[place]?)

variable {α : Type} {names : List Text} {read : Nat → JsonSyntax → Option α}
  {values values' : List α} {ms : List (Text × JsonSyntax)} {name : Text} {place : Nat}

/-! ## 1. One member -/

theorem fill_cons_of_none {j : JsonSyntax} (h : names.idxOf? name = none) :
    fill names read values ((name, j) :: ms) = fill names read values ms := by
  rw [fill, h]

theorem fill_cons_of_some {j : JsonSyntax} (h : names.idxOf? name = some place) :
    fill names read values ((name, j) :: ms)
      = (read place j).bind fun v => fill names read (values.set place v) ms := by
  rw [fill, h]

theorem filledAt_cons_of_ne {m : Text × JsonSyntax} (hne : name ≠ m.1) :
    FilledAt read values values' (m :: ms) place name
      ↔ FilledAt read values values' ms place name := by
  have hmem (j : JsonSyntax) : (name, j) ≠ m := fun h => hne (congrArg Prod.fst h)
  simp only [FilledAt, List.mem_cons, List.map_cons, hmem, hne, false_or]

theorem filledAt_cons_self {j : JsonSyntax} (hnew : name ∉ ms.map Prod.fst) :
    FilledAt read values values' ((name, j) :: ms) place name
      ↔ ∃ v, read place j = some v ∧ values'[place]? = some v := by
  constructor
  · rintro (⟨j', v, hmem, h⟩ | ⟨habsent, -⟩)
    · rcases List.mem_cons.mp hmem with heq | hlater
      · cases heq
        exact ⟨v, h⟩
      · exact absurd (List.mem_map_of_mem hlater) hnew
    · exact absurd List.mem_cons_self habsent
  · rintro ⟨v, h⟩
    exact Or.inl ⟨j, v, List.mem_cons_self, h⟩

theorem filledAt_of_not_mem (hnew : name ∉ ms.map Prod.fst) :
    FilledAt read values values' ms place name ↔ values'[place]? = values[place]? := by
  constructor
  · rintro (⟨j, v, hmem, -⟩ | ⟨-, h⟩)
    · exact absurd (List.mem_map_of_mem hmem) hnew
    · exact h
  · exact fun h => Or.inr ⟨hnew, h⟩

/-- A member decides about the place of its name, and the later ones about all others. -/
theorem filledAt_set_iff (hnames : names.Nodup) {j : JsonSyntax} {v : α}
    (hname : names[place]? = some name) (hnew : name ∉ ms.map Prod.fst)
    (hlt : place < values.length) (hv : read place j = some v) {name' : Text} {place' : Nat}
    (hname' : names[place']? = some name') :
    FilledAt read (values.set place v) values' ms place' name'
      ↔ FilledAt read values values' ((name, j) :: ms) place' name' := by
  by_cases hplace : place = place'
  · subst hplace
    cases hname.symm.trans hname'
    rw [filledAt_of_not_mem hnew, filledAt_cons_self hnew, List.getElem?_set_self hlt, hv]
    simp
  · have hne : name' ≠ name := by
      rintro rfl
      have hother := (idxOf?_eq_some_iff_getElem? hnames).mpr hname
      rw [(idxOf?_eq_some_iff_getElem? hnames).mpr hname'] at hother
      exact hplace (Option.some.inj hother).symm
    rw [filledAt_cons_of_ne hne]
    simp only [FilledAt, List.getElem?_set_ne hplace]

/-! ## 2. All members -/

theorem fill_eq_some_iff (hnames : names.Nodup) (hlength : values.length = names.length)
    (honce : ∀ name ∈ names, (ms.map Prod.fst).count name ≤ 1) :
    fill names read values ms = some values'
      ↔ values'.length = values.length
        ∧ ∀ place name, names[place]? = some name
          → FilledAt read values values' ms place name := by
  induction ms generalizing values with
  | nil =>
    rw [fill, Option.some.injEq]
    constructor
    · rintro rfl
      exact ⟨rfl, fun _ _ _ => Or.inr ⟨List.not_mem_nil, rfl⟩⟩
    · rintro ⟨hsame, h⟩
      refine (List.ext_getElem? fun place => ?_).symm
      rcases Nat.lt_or_ge place names.length with hlt | hge
      · rcases h place _ (List.getElem?_eq_getElem hlt) with ⟨_, _, hmem, -⟩ | ⟨-, h⟩
        · cases hmem
        · exact h
      · rw [List.getElem?_eq_none (by omega), List.getElem?_eq_none (by omega)]
  | cons m ms ih =>
    obtain ⟨name, j⟩ := m
    have hlater : ∀ n ∈ names, (ms.map Prod.fst).count n ≤ 1 := by
      intro n hn
      have := honce n hn
      rw [List.map_cons, List.count_cons] at this
      omega
    cases hplace : names.idxOf? name with
    | none =>
      rw [fill_cons_of_none hplace, ih hlength hlater]
      refine and_congr_right fun _ => forall_congr' fun place => forall_congr' fun n => ?_
      refine imp_congr_right fun hn => ?_
      rw [filledAt_cons_of_ne]
      rintro rfl
      exact List.idxOf?_eq_none_iff.mp hplace (List.mem_of_getElem? hn)
    | some place =>
      have hname : names[place]? = some name := getElem?_of_idxOf? hplace
      have hlt : place < values.length := by
        rw [hlength]
        exact (List.getElem?_eq_some_iff.mp hname).1
      have hnew : name ∉ ms.map Prod.fst := by
        have := honce name (List.mem_of_getElem? hname)
        rw [List.map_cons, List.count_cons_self] at this
        exact List.count_eq_zero.mp (by omega)
      rw [fill_cons_of_some hplace, Option.bind_eq_some_iff]
      constructor
      · rintro ⟨v, hv, hrest⟩
        obtain ⟨hsame, h⟩ := (ih (by rwa [List.length_set]) hlater).mp hrest
        exact ⟨by rwa [List.length_set] at hsame,
          fun p n hn => (filledAt_set_iff hnames hname hnew hlt hv hn).mp (h p n hn)⟩
      · rintro ⟨hsame, h⟩
        obtain ⟨v, hv, -⟩ := (filledAt_cons_self hnew).mp (h place name hname)
        refine ⟨v, hv, (ih (by rwa [List.length_set]) hlater).mpr ⟨by rwa [List.length_set], ?_⟩⟩
        exact fun p n hn => (filledAt_set_iff hnames hname hnew hlt hv hn).mpr (h p n hn)

theorem exists_fill_iff :
    (∃ values', fill names read values ms = some values')
      ↔ ∀ m ∈ ms, ∀ place, names.idxOf? m.1 = some place → ∃ v, read place m.2 = some v := by
  induction ms generalizing values with
  | nil => exact iff_of_true ⟨values, rfl⟩ (List.forall_mem_nil _)
  | cons m ms ih =>
    obtain ⟨name, j⟩ := m
    rw [List.forall_mem_cons]
    cases hplace : names.idxOf? name with
    | none => simp [fill_cons_of_none hplace, ih]
    | some place =>
      rw [fill_cons_of_some hplace]
      cases hv : read place j with
      | none => simp [hv]
      | some v => simp [hv, ih]

end EnvAudit
