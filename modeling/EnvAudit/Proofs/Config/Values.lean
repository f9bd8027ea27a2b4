import Mathlib.Data.List.Count
import Mathlib.Data.Option.Basic
import EnvAudit.Proofs.Config.Places
import EnvAudit.Proofs.Lists

/-!
# Values of settings

What a part of a document has to be to give a text, a flag, a list of texts or weights, and which
value it gives.  Weights are an array with the first of them in order, or an object with some of
them by name; `readWeights_eq_some` has both, and `exists_writesWeights_iff` says which documents
are weights at all.
-/

namespace EnvAudit

/-! ## 1. Values of one type -/

def WritesText (t : Text) (j : JsonSyntax) : Prop :=
  ∃ raw, j = .string raw ∧ unescape? raw = some t

def WritesBool (b : Bool) (j : JsonSyntax) : Prop := j = .bool b

/-- A list of texts is an array of them. -/
def WritesTexts (ts : List Text) (j : JsonSyntax) : Prop :=
  ∃ items, j = .array items ∧ List.Forall₂ (fun i t => WritesText t i) items ts

/-- A weight is a number of 32 bits that is written with digits only. -/
def WritesWeight (n : Nat) (j : JsonSyntax) : Prop :=
  ∃ digits, j = .number digits ∧ (∀ c ∈ digits, isAsciiDigit c) ∧ natOfDigits digits = n
    ∧ n < Nat.pow 2 32

/-- A value that may be left out is `null` then. -/
def WritesOptional {α : Type} (Writes : α → JsonSyntax → Prop) : Option α → JsonSyntax → Prop
  | none, j => j = .null
  | some a, j => Writes a j

section
variable {j : JsonSyntax}

theorem readText_eq_some {t : Text} : readText j = some t ↔ WritesText t j := by
  cases j <;> simp [readText, WritesText]

theorem readBool_eq_some {b : Bool} : readBool j = some b ↔ WritesBool b j := by
  cases j <;> simp [readBool, WritesBool]

theorem readWeight_eq_some {n : Nat} : readWeight j = some n ↔ WritesWeight n j := by
  cases j with
  | number digits =>
    simp only [readWeight, Option.ite_none_right_eq_some, Bool.and_eq_true, List.all_eq_true,
      decide_eq_true_eq, Option.some.injEq, WritesWeight, JsonSyntax.number.injEq,
      exists_eq_left']
    constructor
    · rintro ⟨⟨hdigits, hlt⟩, rfl⟩
      exact ⟨hdigits, rfl, hlt⟩
    · rintro ⟨hdigits, rfl, hlt⟩
      exact ⟨⟨hdigits, hlt⟩, rfl⟩
  | _ => simp [readWeight, WritesWeight]

theorem readOptional_eq_some {α : Type} {read : ValueReader α} {Writes : α → JsonSyntax → Prop}
    (h : ∀ j a, read j = some a ↔ Writes a j) (hnull : read .null = none) {v : Option α} :
    readOptional read j = some v ↔ WritesOptional Writes v j := by
  cases j with
  | null =>
    cases v with
    | none => exact iff_of_true rfl rfl
    | some a => exact iff_of_false (fun h => nomatch h) fun ha => by simp [(h _ a).mpr ha] at hnull
  | _ => cases v <;> simp [readOptional, WritesOptional, h]

theorem exists_writesOptional {α : Type} {Writes : α → JsonSyntax → Prop} :
    (∃ v, WritesOptional Writes v j) ↔ j = .null ∨ ∃ a, Writes a j :=
  Option.exists

theorem readTexts_eq_some {ts : List Text} : readTexts j = some ts ↔ WritesTexts ts j := by
  cases j with
  | array items =>
    simp only [readTexts, mapM_eq_some_iff_forall₂, readText_eq_some, WritesTexts,
      JsonSyntax.array.injEq, exists_eq_left']
  | _ => simp [readTexts, WritesTexts]

theorem exists_writesTexts_iff :
    (∃ ts, WritesTexts ts j) ↔ ∃ items, j = .array items ∧ ∀ i ∈ items, ∃ t, WritesText t i := by
  simp only [WritesTexts, ← exists_forall₂_iff]
  constructor
  · rintro ⟨ts, items, hj, h⟩
    exact ⟨items, hj, ts, h⟩
  · rintro ⟨items, hj, ts, h⟩
    exact ⟨ts, items, hj, h⟩

end

/-! ## 2. Members by name -/

/-- The member has the name, once the escapes are taken out. -/
def IsNamed (name : Text) (m : Text × JsonSyntax) : Prop := unescape? m.1 = some name

def memberNames (members : List (Text × JsonSyntax)) : List (Option Text) :=
  members.map fun m => unescape? m.1

/-- The value is the one that the member of the name writes, or the default if there is none. -/
def IsGiven {α : Type} (Writes : α → JsonSyntax → Prop) (members : List (Text × JsonSyntax))
    (name : Text) (value default : α) : Prop :=
  (∃ m ∈ members, IsNamed name m ∧ Writes value m.2)
    ∨ ((∀ m ∈ members, ¬ IsNamed name m) ∧ value = default)

section
variable {members named : List (Text × JsonSyntax)} {name : Text} {j : JsonSyntax}

theorem namedMembers?_eq_some :
    namedMembers? members = some named
      ↔ List.Forall₂ (fun m n => IsNamed n.1 m ∧ n.2 = m.2) members named := by
  rw [namedMembers?, mapM_eq_some_iff_forall₂]
  have hmember (m n : Text × JsonSyntax) :
      (unescape? m.1).map (fun name => (name, m.2)) = some n ↔ IsNamed n.1 m ∧ n.2 = m.2 := by
    obtain ⟨name, j⟩ := n
    simp [IsNamed, eq_comm (a := m.2)]
  simp only [hmember]

theorem exists_namedMembers?_iff :
    (∃ named, namedMembers? members = some named) ↔ ∀ m ∈ members, ∃ name, IsNamed name m := by
  simp only [namedMembers?_eq_some, exists_forall₂_iff]
  refine forall₂_congr fun m _ => ?_
  constructor
  · rintro ⟨n, hn, -⟩
    exact ⟨n.1, hn⟩
  · rintro ⟨name, hname⟩
    exact ⟨(name, m.2), hname, rfl⟩

theorem memberNames_eq_map (h : namedMembers? members = some named) :
    memberNames members = (named.map Prod.fst).map some := by
  rw [namedMembers?_eq_some] at h
  induction h with
  | nil => rfl
  | cons hm _ ih => exact congrArg₂ List.cons hm.1 ih

theorem mem_named_iff (h : namedMembers? members = some named) :
    (name, j) ∈ named ↔ ∃ m ∈ members, IsNamed name m ∧ m.2 = j := by
  rw [namedMembers?_eq_some] at h
  induction h with
  | nil => simp
  | @cons m n ms ns hm _ ih =>
    obtain ⟨hname, hj⟩ := hm
    have hhead : (name, j) = n ↔ IsNamed name m ∧ m.2 = j := by
      rw [← hj, Prod.ext_iff]
      refine and_congr ?_ eq_comm
      rw [IsNamed, hname, Option.some.injEq, eq_comm]
    rw [List.mem_cons, ih, hhead]
    simp

theorem not_mem_named_iff (h : namedMembers? members = some named) :
    name ∉ named.map Prod.fst ↔ ∀ m ∈ members, ¬ IsNamed name m := by
  constructor
  · intro habsent m hm hname
    exact habsent (List.mem_map.mpr ⟨(name, m.2), (mem_named_iff h).mpr ⟨m, hm, hname, rfl⟩, rfl⟩)
  · intro habsent hmem
    obtain ⟨⟨_, j⟩, hj, rfl⟩ := List.mem_map.mp hmem
    obtain ⟨m, hm, hname, -⟩ := (mem_named_iff h).mp hj
    exact habsent m hm hname

theorem count_memberNames (h : namedMembers? members = some named) :
    (memberNames members).count (some name) = (named.map Prod.fst).count name := by
  rw [memberNames_eq_map h, List.count_map_of_injective _ _ (Option.some_injective _)]

end

/-! ## 3. Weights -/

/-- Whether a document is weights: an array of at most as many as there are, or an object where no
name of a weight occurs twice.  Members of other names are passed over. -/
def IsWeights : JsonSyntax → Prop
  | .array items => items.length ≤ weightNames.length ∧ ∀ i ∈ items, ∃ n, WritesWeight n i
  | .object members =>
    (∀ m ∈ members, ∃ name, IsNamed name m ∧ (name ∈ weightNames → ∃ n, WritesWeight n m.2))
      ∧ ∀ name ∈ weightNames, (memberNames members).count (some name) ≤ 1
  | _ => False

/-- The document is weights, and they are these; a weight that is not given is the default one. -/
def WritesWeights (w : HealthWeights) : JsonSyntax → Prop
  | .array items => ∃ given, List.Forall₂ (fun i n => WritesWeight n i) items given
      ∧ w.toList = given ++ defaultWeights.toList.drop given.length
  | .object members => IsWeights (.object members)
      ∧ ∀ s ∈ weightNames.zip (w.toList.zip defaultWeights.toList),
          IsGiven WritesWeight members s.1 s.2.1 s.2.2
  | _ => False

namespace ByFinding

theorem length_toList (w : ByFinding) : w.toList.length = weightNames.length := rfl

theorem toList_injective {w w' : ByFinding} (h : w.toList = w'.toList) : w = w' := by
  cases w
  cases w'
  simpa [toList] using h

theorem toList_setAt (w : ByFinding) (place value : Nat) :
    (w.setAt place value).toList = w.toList.set place value := by
  match place with
  | 0 | 1 | 2 | 3 | 4 | 5 | 6 | 7 | 8 | 9 => rfl
  | n + 10 => exact (List.set_eq_of_length_le (Nat.le_add_left 10 n)).symm

end ByFinding

section
variable {w w' : HealthWeights} {items : List JsonSyntax} {j : JsonSyntax}

/-- The values of an array come into the places one after the other. -/
theorem weightsFromItems_eq_some {done rest : List Nat} (h : w.toList = done ++ rest) :
    weightsFromItems done.length w items = some w'
      ↔ ∃ given, List.Forall₂ (fun i n => WritesWeight n i) items given
          ∧ given.length ≤ rest.length ∧ w'.toList = done ++ (given ++ rest.drop given.length) := by
  have hlength : done.length + rest.length = weightNames.length := by
    rw [← w.length_toList, h, List.length_append]
  induction items generalizing done rest w with
  | nil =>
    simp only [weightsFromItems, Option.some.injEq, List.forall₂_nil_left_iff, exists_eq_left,
      List.nil_append, List.length_nil, List.drop_zero, Nat.zero_le, true_and]
    rw [← h]
    exact ⟨fun heq => congrArg ByFinding.toList heq.symm,
      fun heq => ByFinding.toList_injective heq.symm⟩
  | cons i items ih =>
    simp only [weightsFromItems, List.forall₂_cons_left_iff]
    cases rest with
    | nil =>
      rw [if_neg (by rw [← hlength]; exact Nat.lt_irrefl _)]
      refine iff_of_false (fun h => nomatch h) ?_
      rintro ⟨_, ⟨n, given, -, -, rfl⟩, hle, -⟩
      cases hle
    | cons d rest =>
      rw [List.length_cons] at hlength
      rw [if_pos (by omega), Option.bind_eq_some_iff]
      have hstep (v : Nat) :
          weightsFromItems (done.length + 1) (w.setAt done.length v) items = some w'
            ↔ ∃ given, List.Forall₂ (fun i n => WritesWeight n i) items given
                ∧ given.length ≤ rest.length
                ∧ w'.toList = done ++ [v] ++ (given ++ rest.drop given.length) := by
        have hset : (w.setAt done.length v).toList = done ++ [v] ++ rest := by
          rw [ByFinding.toList_setAt, h]
          simp
        have hplace : (done ++ [v]).length = done.length + 1 := by simp
        rw [← hplace]
        exact ih hset (by omega)
      simp only [hstep, readWeight_eq_some]
      constructor
      · rintro ⟨v, hv, given, hgiven, hle, hw⟩
        exact ⟨v :: given, ⟨v, given, hv, hgiven, rfl⟩, Nat.succ_le_succ hle, by simpa using hw⟩
      · rintro ⟨_, ⟨v, given, hv, hgiven, rfl⟩, hle, hw⟩
        exact ⟨v, hv, given, hgiven, Nat.le_of_succ_le_succ hle, by simpa using hw⟩

theorem map_toList_weightsFromMembers (w : HealthWeights) (ms : List (Text × JsonSyntax)) :
    (weightsFromMembers w ms).map ByFinding.toList
      = fill weightNames (fun _ => readWeight) w.toList ms := by
  induction ms generalizing w with
  | nil => rfl
  | cons m ms ih =>
    obtain ⟨name, j⟩ := m
    cases hplace : weightNames.idxOf? name with
    | none =>
      rw [weightsFromMembers, hplace, fill_cons_of_none hplace]
      exact ih w
    | some place =>
      rw [weightsFromMembers, hplace, fill_cons_of_some hplace]
      cases hv : readWeight j with
      | none => rfl
      | some v => simp [ih, ByFinding.toList_setAt]

theorem weightsFromMembers_eq_some {ms : List (Text × JsonSyntax)} :
    weightsFromMembers w ms = some w'
      ↔ fill weightNames (fun _ => readWeight) w.toList ms = some w'.toList := by
  rw [← map_toList_weightsFromMembers, Option.map_eq_some_iff]
  constructor
  · exact fun h => ⟨w', h, rfl⟩
  · rintro ⟨w'', h, heq⟩
    rwa [← ByFinding.toList_injective heq]

theorem readWeights_array :
    readWeights (.array items) = some w ↔ WritesWeights w (.array items) := by
  have hdefault : defaultWeights.toList = [] ++ defaultWeights.toList := rfl
  refine (weightsFromItems_eq_some hdefault).trans (exists_congr fun given => ?_)
  refine and_congr_right fun _ => ⟨fun h => h.2, fun h => ⟨?_, h⟩⟩
  have hlength := congrArg List.length h
  rw [List.length_append, w.length_toList] at hlength
  rw [defaultWeights.length_toList]
  omega

end

section
variable {w : HealthWeights} {members named : List (Text × JsonSyntax)} {j : JsonSyntax}

theorem knownOnce_iff {known names : List Text} :
    knownOnce known names ↔ ∀ name ∈ known, names.count name ≤ 1 := by
  simp [knownOnce]

/-- A place is filled as the members say that are there before their names are read. -/
theorem filledAt_iff_isGiven {α : Type} {read : Nat → JsonSyntax → Option α}
    {Writes : α → JsonSyntax → Prop} {values values' : List α} {place : Nat} {name : Text}
    {v d : α} (h : namedMembers? members = some named) (hv : values'[place]? = some v)
    (hd : values[place]? = some d) (hread : ∀ {j}, read place j = some v ↔ Writes v j) :
    FilledAt read values values' named place name ↔ IsGiven Writes members name v d := by
  rw [FilledAt, IsGiven, not_mem_named_iff h, hv, hd, Option.some.injEq]
  refine or_congr_left ?_
  constructor
  · rintro ⟨j, v', hmem, hj, hv'⟩
    cases hv'
    obtain ⟨m, hm, hname, rfl⟩ := (mem_named_iff h).mp hmem
    exact ⟨m, hm, hname, hread.mp hj⟩
  · rintro ⟨m, hm, hname, hwrites⟩
    exact ⟨m.2, v, (mem_named_iff h).mpr ⟨m, hm, hname, rfl⟩, hread.mpr hwrites, rfl⟩

theorem readWeights_object_eq_some :
    readWeights (.object members) = some w
      ↔ ∃ named, namedMembers? members = some named
          ∧ (∀ name ∈ weightNames, (named.map Prod.fst).count name ≤ 1)
          ∧ fill weightNames (fun _ => readWeight) defaultWeights.toList named = some w.toList := by
  simp only [readWeights, Option.bind_eq_bind, Option.bind_eq_some_iff, Option.guard_eq_some',
    exists_const, knownOnce_iff, weightsFromMembers_eq_some]

theorem isWeights_object_iff (h : namedMembers? members = some named) :
    IsWeights (.object members)
      ↔ (∃ values, fill weightNames (fun _ => readWeight) defaultWeights.toList named = some values)
        ∧ ∀ name ∈ weightNames, (named.map Prod.fst).count name ≤ 1 := by
  simp only [IsWeights, count_memberNames h, exists_fill_iff, readWeight_eq_some]
  refine and_congr_left fun _ => ?_
  constructor
  · rintro hmembers ⟨name, j⟩ hmem place hplace
    obtain ⟨m, hm, hname, rfl⟩ := (mem_named_iff h).mp hmem
    obtain ⟨name', hname', hweight⟩ := hmembers m hm
    cases Option.some.inj (hname.symm.trans hname')
    exact hweight (List.isSome_idxOf?.mp (by rw [hplace]; rfl))
  · intro hnamed m hm
    obtain ⟨name, hname⟩ := exists_namedMembers?_iff.mp ⟨named, h⟩ m hm
    refine ⟨name, hname, fun hknown => ?_⟩
    obtain ⟨place, hplace⟩ := Option.isSome_iff_exists.mp (List.isSome_idxOf?.mpr hknown)
    exact hnamed (name, m.2) ((mem_named_iff h).mpr ⟨m, hm, hname, rfl⟩) place hplace

theorem nodup_weightNames : weightNames.Nodup := by decide

theorem forall_filledAt_weights_iff (h : namedMembers? members = some named) :
    (∀ place name, weightNames[place]? = some name
        → FilledAt (fun _ => readWeight) defaultWeights.toList w.toList named place name)
      ↔ ∀ s ∈ weightNames.zip (w.toList.zip defaultWeights.toList),
          IsGiven WritesWeight members s.1 s.2.1 s.2.2 := by
  constructor
  · intro hfilled s hs
    obtain ⟨place, hplace⟩ := List.mem_iff_getElem?.mp hs
    obtain ⟨hname, hvalues⟩ := List.getElem?_zip_eq_some.mp hplace
    obtain ⟨hv, hd⟩ := List.getElem?_zip_eq_some.mp hvalues
    exact (filledAt_iff_isGiven h hv hd readWeight_eq_some).mp (hfilled place s.1 hname)
  · intro hgiven place name hname
    have hlt : place < weightNames.length := (List.getElem?_eq_some_iff.mp hname).1
    have hv := List.getElem?_eq_getElem (l := w.toList) hlt
    have hd := List.getElem?_eq_getElem (l := defaultWeights.toList) hlt
    refine (filledAt_iff_isGiven h hv hd readWeight_eq_some).mpr ?_
    refine hgiven (name, _, _) (List.mem_iff_getElem?.mpr ⟨place, ?_⟩)
    exact List.getElem?_zip_eq_some.mpr ⟨hname, List.getElem?_zip_eq_some.mpr ⟨hv, hd⟩⟩

theorem readWeights_object :
    readWeights (.object members) = some w ↔ WritesWeights w (.object members) := by
  have hlength : defaultWeights.toList.length = weightNames.length := rfl
  rw [readWeights_object_eq_some]
  constructor
  · rintro ⟨named, h, honce, hfill⟩
    refine ⟨(isWeights_object_iff h).mpr ⟨⟨_, hfill⟩, honce⟩, ?_⟩
    exact (forall_filledAt_weights_iff h).mp
      ((fill_eq_some_iff nodup_weightNames hlength honce).mp hfill).2
  · rintro ⟨hweights, hgiven⟩
    obtain ⟨named, h⟩ := exists_namedMembers?_iff.mpr fun m hm =>
      (hweights.1 m hm).imp fun _ hname => hname.1
    have honce := ((isWeights_object_iff h).mp hweights).2
    refine ⟨named, h, honce, ?_⟩
    exact (fill_eq_some_iff nodup_weightNames hlength honce).mpr
      ⟨rfl, (forall_filledAt_weights_iff h).mpr hgiven⟩

/-- Weights are read just as they are written. -/
theorem readWeights_eq_some : readWeights j = some w ↔ WritesWeights w j := by
  cases j with
  | array items => exact readWeights_array
  | object members => exact readWeights_object
  | _ => exact iff_of_false (fun h => nomatch h) False.elim

/-- Each list of as many values as there are weights is one of weights. -/
theorem ByFinding.exists_toList_eq {ns : List Nat} (h : ns.length = weightNames.length) :
    ∃ w : ByFinding, w.toList = ns := by
  match ns, h with
  | [a, b, c, d, e, f, g, h, i, j], _ => exact ⟨⟨a, b, c, d, e, f, g, h, i, j⟩, rfl⟩

theorem exists_writesWeights_iff : (∃ w, WritesWeights w j) ↔ IsWeights j := by
  cases j with
  | array items =>
    rw [IsWeights, ← exists_forall₂_iff]
    constructor
    · rintro ⟨w, given, hgiven, hw⟩
      have hlength := congrArg List.length hw
      rw [List.length_append, w.length_toList, ← hgiven.length_eq] at hlength
      exact ⟨by omega, given, hgiven⟩
    · rintro ⟨hle, given, hgiven⟩
      have hlength :
          (given ++ defaultWeights.toList.drop given.length).length = weightNames.length := by
        rw [hgiven.length_eq] at hle
        rw [List.length_append, List.length_drop, defaultWeights.length_toList]
        omega
      obtain ⟨w, hw⟩ := ByFinding.exists_toList_eq hlength
      exact ⟨w, given, hgiven, hw⟩
  | object members =>
    constructor
    · rintro ⟨w, hweights, -⟩
      exact hweights
    · intro hweights
      obtain ⟨named, h⟩ := exists_namedMembers?_iff.mpr fun m hm =>
        (hweights.1 m hm).imp fun _ hname => hname.1
      obtain ⟨⟨values, hfill⟩, honce⟩ := (isWeights_object_iff h).mp hweights
      rw [← map_toList_weightsFromMembers] at hfill
      obtain ⟨w, hw, rfl⟩ := Option.map_eq_some_iff.mp hfill
      exact ⟨w, readWeights_object.mp (readWeights_object_eq_some.mpr
        ⟨named, h, honce, weightsFromMembers_eq_some.mp hw⟩)⟩
  | _ => exact iff_of_false (fun ⟨_, h⟩ => h) id

end

end EnvAudit
