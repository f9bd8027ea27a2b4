import Mathlib.Data.List.Flatten
import Mathlib.Data.List.Forall2
import Mathlib.Data.List.Nodup
import Mathlib.Data.List.TakeWhile

/-!
# Lists

What the theory uses of lists and the library does not have, for elements of any type: the run of a
class at the front, parts of lists that are chosen by a test or by another list, places of elements,
lists whose elements are related one by one, findings made element by element, and passes that may
fail.
-/

namespace EnvAudit

section

variable {α β : Type}

/-! ## 1. The run at the front -/

/-- The longest run of a class at the front of a list. -/
theorem span_eq_iff {p : α → Bool} {s w rest : List α} :
    s.takeWhile p = w ∧ s.dropWhile p = rest
      ↔ s = w ++ rest ∧ (∀ c ∈ w, p c) ∧ rest.head?.all (!p ·) := by
  constructor
  · intro h
    rcases h with ⟨rfl, rfl⟩
    refine ⟨List.takeWhile_append_dropWhile.symm, fun c hc => List.mem_takeWhile_imp hc, ?_⟩
    have hhead := List.head?_dropWhile_not p s
    cases hrest : (s.dropWhile p).head? with
    | none => rfl
    | some c =>
      rw [hrest] at hhead
      simpa using hhead
  · intro h
    rcases h with ⟨rfl, hw, hrest⟩
    rw [List.takeWhile_append_of_pos hw, List.dropWhile_append_of_pos hw]
    cases rest with
    | nil => exact ⟨List.append_nil w, rfl⟩
    | cons c s =>
      have hc : ¬ p c := by simpa using hrest
      rw [List.takeWhile_cons_of_neg hc, List.dropWhile_cons_of_neg hc, List.append_nil]
      exact ⟨rfl, rfl⟩

theorem exists_of_dropWhile_eq {p : α → Bool} {s rest : List α} (h : s.dropWhile p = rest) :
    ∃ w, s = w ++ rest ∧ ∀ c ∈ w, p c := by
  rcases span_eq_iff.mp ⟨rfl, h⟩ with ⟨hs, hw, _⟩
  exact ⟨_, hs, hw⟩

theorem dropWhile_append_cons {p : α → Bool} {w : List α} (hw : ∀ c ∈ w, p c) {c : α}
    (hc : p c = false) (s : List α) : (w ++ c :: s).dropWhile p = c :: s :=
  (span_eq_iff.mpr ⟨rfl, hw, by simpa using hc⟩).2

theorem forall_mem_of_all_not {p : α → Bool} {s : List α} (h : s.all (!p ·)) :
    ∀ c ∈ s, p c = false := by
  simpa using h

theorem forall_mem_head?_append {P : α → Prop} {s t : List α} (hs : ∀ c ∈ s, P c)
    (ht : ∀ c ∈ t.head?, P c) : ∀ c ∈ (s ++ t).head?, P c := by
  cases s with
  | nil => exact ht
  | cons a s =>
    intro c hc
    cases hc
    exact hs a List.mem_cons_self

theorem head?_all_not {p : α → Bool} {s : List α} (h : ∀ c ∈ s.head?, p c = false) :
    s.head?.all (!p ·) := by
  rw [Option.all_eq_true]
  intro c hc
  rw [h c hc]
  rfl

/-! ## 2. Parts chosen by a test -/

/-- Two selections from one list, the second from what the first keeps. -/
theorem eq_filter_of_imp {w xs ys : List α} {p q : α → Bool} (hx : xs = w.filter p)
    (hy : ys = w.filter q) (h : ∀ a, q a → p a) : ys = xs.filter q := by
  rw [hx, hy, List.filter_filter]
  apply List.filter_congr
  intro a _
  by_cases hq : q a
  · rw [hq, h a hq, Bool.and_self]
  · rw [Bool.eq_false_iff.mpr hq, Bool.false_and]

theorem length_le_of_eq_filter {xs ys : List α} {p : α → Bool} (h : xs = ys.filter p) :
    xs.length ≤ ys.length :=
  h ▸ List.length_filter_le p ys

theorem isEmpty_of_eq_filter {xs ys : List α} {p : α → Bool} (h : xs = ys.filter p)
    (hy : ys.isEmpty) : xs.isEmpty := by
  rw [h, List.isEmpty_iff.mp hy]
  rfl

theorem any_of_eq_filter {xs ys : List α} {p q : α → Bool} (h : xs = ys.filter p)
    (hq : xs.any q) : ys.any q := by
  rcases List.any_eq_true.mp hq with ⟨a, ha, hqa⟩
  exact List.any_eq_true.mpr ⟨a, List.mem_of_mem_filter (h ▸ ha), hqa⟩

/-- If every finding is kept exactly when the element it is made from is, then elements may be
dropped before the findings are made. -/
theorem flatMap_filter_of_kept {f : α → List β} {p : α → Bool} {q : β → Bool}
    (h : ∀ a, ∀ b ∈ f a, q b = p a) (xs : List α) :
    (xs.filter p).flatMap f = (xs.flatMap f).filter q := by
  induction xs with
  | nil => rfl
  | cons a as ih =>
    rw [List.flatMap_cons, List.filter_append, ← ih]
    by_cases ha : p a
    · have hf : (f a).filter q = f a := List.filter_eq_self.mpr fun b hb => (h a b hb).trans ha
      rw [List.filter_cons_of_pos ha, List.flatMap_cons, hf]
    · have hf : (f a).filter q = [] := by
        rw [List.filter_eq_nil_iff]
        intro b hb
        rwa [h a b hb]
      rw [List.filter_cons_of_neg ha, hf, List.nil_append]

theorem filterMap_filter_of_kept {f : α → Option β} {p : α → Bool} {q : β → Bool}
    (h : ∀ a b, f a = some b → q b = p a) (xs : List α) :
    (xs.filter p).filterMap f = (xs.filterMap f).filter q := by
  have hf : ∀ a, ∀ b ∈ (f a).toList, q b = p a := fun a b hb => h a b (Option.mem_toList.mp hb)
  simpa only [List.filterMap_eq_flatMap_toList] using flatMap_filter_of_kept hf xs

/-! ## 3. What two lists have in common -/

section

variable [BEq α]

/-- What a list lacks of another and what it has in common with it is all of it. -/
theorem length_filter_not_contains_add (xs ys : List α) :
    (xs.filter fun a => !ys.contains a).length + (xs.filter ys.contains).length = xs.length := by
  rw [Nat.add_comm, ← List.length_eq_length_filter_add]

variable [LawfulBEq α]

theorem mem_filter_not_contains {xs ys : List α} {a : α} :
    a ∈ xs.filter (fun b => !ys.contains b) ↔ a ∈ xs ∧ a ∉ ys := by
  rw [List.mem_filter, Bool.not_eq_true', ← Bool.not_eq_true, List.contains_iff_mem]

/-- A list lacks nothing of another once it is given what it lacks. -/
theorem filter_not_contains_append (xs ys : List α) :
    (xs.filter fun a => !(ys ++ xs.filter fun b => !ys.contains b).contains a) = [] := by
  rw [List.filter_eq_nil_iff]
  intro a ha
  by_cases hy : a ∈ ys
  · simp [hy]
  · simp [ha, hy]

/-- What it is given is nothing that the other list lacks. -/
theorem append_filter_not_contains (xs ys : List α) :
    ((ys ++ xs.filter fun b => !ys.contains b).filter fun a => !xs.contains a)
      = ys.filter fun a => !xs.contains a := by
  have hnone : ((xs.filter fun b => !ys.contains b).filter fun a => !xs.contains a) = [] := by
    rw [List.filter_eq_nil_iff]
    intro a ha
    simpa using (mem_filter_not_contains.mp ha).1
  rw [List.filter_append, hnone, List.append_nil]

/-- What another list lacks is found among the kept elements of both. -/
theorem filter_not_contains_filter {keep : α → Bool} (xs ys : List α) :
    ((xs.filter keep).filter fun a => !(ys.filter keep).contains a)
      = (xs.filter fun a => !ys.contains a).filter keep := by
  rw [List.filter_filter, List.filter_filter]
  apply List.filter_congr
  intro a _
  have ha : (ys.filter keep).contains a = (ys.contains a && keep a) := by
    rw [Bool.eq_iff_iff]
    simp [and_comm]
  rw [ha]
  cases keep a <;> simp

/-- Two lists without repeats have as many elements of each other. -/
theorem length_filter_contains {xs ys : List α} (hx : xs.Nodup) (hy : ys.Nodup) :
    (xs.filter ys.contains).length = (ys.filter xs.contains).length := by
  apply List.Perm.length_eq
  rw [List.perm_ext_iff_of_nodup (hx.filter _) (hy.filter _)]
  intro a
  simp only [List.mem_filter, List.contains_iff_mem, and_comm]

end

/-! ## 4. Places of elements -/

section

variable [BEq α] [LawfulBEq α] {xs : List α} {a : α} {place : Nat}

theorem getElem?_of_idxOf? (h : xs.idxOf? a = some place) : xs[place]? = some a := by
  obtain ⟨hlt, ha, -⟩ := List.idxOf?_eq_some_iff.mp h
  rw [List.getElem?_eq_getElem hlt, ha]

theorem idxOf?_eq_some_iff_getElem? (hxs : xs.Nodup) :
    xs.idxOf? a = some place ↔ xs[place]? = some a := by
  refine ⟨getElem?_of_idxOf?, fun h => ?_⟩
  cases hother : xs.idxOf? a with
  | none => exact absurd (List.mem_of_getElem? h) (List.idxOf?_eq_none_iff.mp hother)
  | some other =>
    have hplace : xs[place]? = xs[other]? := by rw [h, getElem?_of_idxOf? hother]
    obtain ⟨hlt, -⟩ := List.getElem?_eq_some_iff.mp h
    rw [(List.getElem?_inj hlt hxs).mp hplace]

end

theorem reverse_take_succ {xs : List α} {a : α} {b : Nat} (h : xs[b]? = some a) :
    (xs.take (b + 1)).reverse = a :: (xs.take b).reverse := by
  rw [List.take_add_one, h, List.reverse_append]
  rfl

theorem length_reverse_take {xs : List α} {a : α} {b : Nat} (h : xs[b]? = some a) :
    (xs.take b).reverse.length = b := by
  rcases List.getElem?_eq_some_iff.mp h with ⟨hb, _⟩
  rw [List.length_reverse, List.length_take_of_le (Nat.le_of_lt hb)]

/-! ## 5. Elements related one by one -/

theorem map_eq_map_of_forall₂ {R : α → α → Prop} {xs ys : List α}
    (h : List.Forall₂ R xs ys) {g : α → β} (hg : ∀ a b, R a b → g b = g a) :
    ys.map g = xs.map g := by
  induction h with
  | nil => rfl
  | cons hab _ ih => rw [List.map_cons, List.map_cons, hg _ _ hab, ih]

theorem flatMap_eq_flatMap_of_forall₂ {R : α → α → Prop} {xs ys : List α}
    (h : List.Forall₂ R xs ys) {g : α → List β} (hg : ∀ a b, R a b → g b = g a) :
    ys.flatMap g = xs.flatMap g := by
  rw [List.flatMap_def, List.flatMap_def, map_eq_map_of_forall₂ h hg]

theorem exists_forall₂_iff {R : α → β → Prop} {as : List α} :
    (∃ bs, List.Forall₂ R as bs) ↔ ∀ a ∈ as, ∃ b, R a b := by
  induction as with
  | nil => simp
  | cons a as ih =>
    rw [List.forall_mem_cons, ← ih]
    constructor
    · rintro ⟨_, h⟩
      obtain ⟨b, bs, hb, hbs, rfl⟩ := List.forall₂_cons_left_iff.mp h
      exact ⟨⟨b, hb⟩, bs, hbs⟩
    · rintro ⟨⟨b, hb⟩, bs, hbs⟩
      exact ⟨b :: bs, .cons hb hbs⟩

/-! ## 6. Findings made element by element -/

/-- Nothing is left out of the whole just if nothing is left out of any part. -/
theorem flatMap_eq_iff_of_sublist {f g : α → List β} {xs : List α}
    (h : ∀ x ∈ xs, (f x).Sublist (g x)) :
    xs.flatMap f = xs.flatMap g ↔ ∀ x ∈ xs, f x = g x := by
  induction xs with
  | nil => simp
  | cons x xs ih =>
    obtain ⟨hx, hxs⟩ := List.forall_mem_cons.mp h
    rw [List.flatMap_cons, List.flatMap_cons, List.forall_mem_cons, ← ih hxs]
    constructor
    · intro happend
      have hlength := congrArg List.length happend
      rw [List.length_append, List.length_append] at hlength
      have hle := hx.length_le
      have hle' := (List.Sublist.flatMap_right xs hxs).length_le
      have hhead : f x = g x := hx.eq_of_length (by omega)
      rw [hhead] at happend
      exact ⟨hhead, List.append_cancel_left happend⟩
    · intro hparts
      rw [hparts.1, hparts.2]

/-- If no two elements have the same key, then equal lists of keyed findings come from equal
findings. -/
theorem filterMap_eq_iff_of_nodup {κ : Type} {key : α → Option κ} {f g : α → Option (κ × β)}
    (hf : ∀ a r, f a = some r → key a = some r.1) (hg : ∀ a r, g a = some r → key a = some r.1)
    {xs : List α} (hnodup : (xs.filterMap key).Nodup) :
    xs.filterMap f = xs.filterMap g ↔ ∀ a ∈ xs, f a = g a := by
  refine ⟨fun h => ?_, List.filterMap_congr⟩
  induction xs with
  | nil =>
    intro a ha
    cases ha
  | cons a as ih =>
    -- the key of `a` is that of no later element, so no later finding can stand for one of `a`
    have hlater {e : α → Option (κ × β)} (he : ∀ a r, e a = some r → key a = some r.1)
        {r : κ × β} (hr : key a = some r.1) : r ∉ as.filterMap e := by
      intro hmem
      rcases List.mem_filterMap.mp hmem with ⟨b, hb, hbr⟩
      rw [List.filterMap_cons_some hr, List.nodup_cons] at hnodup
      exact hnodup.1 (List.mem_filterMap.mpr ⟨b, hb, he b r hbr⟩)
    have htail : (as.filterMap key).Nodup :=
      hnodup.sublist ((List.sublist_cons_self a as).filterMap key)
    rw [List.forall_mem_cons]
    cases hfa : f a with
    | none =>
      rw [List.filterMap_cons_none hfa] at h
      cases hga : g a with
      | none =>
        rw [List.filterMap_cons_none hga] at h
        exact ⟨rfl, ih htail h⟩
      | some r =>
        rw [List.filterMap_cons_some hga] at h
        exact absurd (h ▸ List.mem_cons_self) (hlater hf (hg a r hga))
    | some r =>
      rw [List.filterMap_cons_some hfa] at h
      cases hga : g a with
      | none =>
        rw [List.filterMap_cons_none hga] at h
        exact absurd (h ▸ List.mem_cons_self) (hlater hg (hf a r hfa))
      | some s =>
        rw [List.filterMap_cons_some hga] at h
        rcases List.cons.inj h with ⟨rfl, hrest⟩
        exact ⟨rfl, ih htail hrest⟩

/-! ## 7. Passes that may fail -/

theorem mapM_eq_some_iff_forall₂ {f : α → Option β} {as : List α} {bs : List β} :
    as.mapM f = some bs ↔ List.Forall₂ (fun a b => f a = some b) as bs := by
  induction as generalizing bs with
  | nil => simp [eq_comm]
  | cons a as ih =>
    simp only [List.mapM_cons, Option.bind_eq_bind, Option.bind_eq_some_iff, Option.pure_def,
      Option.some.injEq, ih, List.forall₂_cons_left_iff]
    constructor
    · rintro ⟨b, hb, bs, hbs, rfl⟩
      exact ⟨b, bs, hb, hbs, rfl⟩
    · rintro ⟨b, bs, hb, hbs, rfl⟩
      exact ⟨b, hb, bs, hbs, rfl⟩

/-- What each step of a pass keeps is true where the pass ends. -/
theorem of_foldlM_eq_some {P : β → Prop} {f : β → α → Option β} {xs : List α} {b b' : β}
    (h : ∀ b a b', f b a = some b' → P b → P b') (hfold : xs.foldlM f b = some b') (hb : P b) :
    P b' := by
  induction xs generalizing b with
  | nil =>
    cases hfold
    exact hb
  | cons a xs ih =>
    rw [List.foldlM_cons] at hfold
    obtain ⟨next, hnext, hrest⟩ := Option.bind_eq_some_iff.mp hfold
    exact ih hrest (h b a next hnext hb)

theorem foldlM_eq_some {f : β → α → Option β} {g : β → α → β} {xs : List α}
    (h : ∀ b, ∀ a ∈ xs, f b a = some (g b a)) (b : β) : xs.foldlM f b = some (xs.foldl g b) := by
  induction xs generalizing b with
  | nil => rfl
  | cons a xs ih =>
    rw [List.foldlM_cons, h b a List.mem_cons_self]
    exact ih (fun b a ha => h b a (List.mem_cons_of_mem _ ha)) _

end

end EnvAudit
