import EnvAudit.Project.Schema
import EnvAudit.Proofs.Text.Firsts

/-!
# Problems with a schema

The check of usages against a schema walks over them with the warnings found so far in hand, and a
warning is added only if it is about something new.  `map_problem_checkAll` says what comes of the
walk without it: the problems of all usages, each where it comes first.  A name and the reason as it
is written tell a problem (`SchemaWarning.reason_eq_iff`), so that no reason is given twice, and each
is given for the first usage that has it (`checkAll_one_per_reason`).
-/

namespace EnvAudit

/-! ## 1. Adding what is new -/

/-- Adds an element at the end, unless it is there already. -/
def addNew {α : Type} [DecidableEq α] (found : List α) (a : α) : List α :=
  if a ∈ found then found else found ++ [a]

theorem foldl_addNew {α : Type} [DecidableEq α] (found xs : List α) :
    xs.foldl addNew found = found ++ (firsts xs).filter fun b => b ∉ found := by
  induction xs generalizing found with
  | nil => exact (List.append_nil found).symm
  | cons a as ih =>
    rw [List.foldl_cons, ih, firsts, addNew]
    split
    next ha =>
      -- what is not there yet differs from `a` anyway
      have hsame : ((firsts as).filter fun b => decide (b ≠ a)).filter (fun b => decide (b ∉ found))
          = (firsts as).filter fun b => decide (b ∉ found) := by
        rw [List.filter_filter]
        apply List.filter_congr
        intro b _
        by_cases hb : b = a
        · simp [hb, ha]
        · simp [hb]
      rw [List.filter_cons_of_neg (by simpa using ha), hsame]
    next ha =>
      rw [List.filter_cons_of_pos (by simpa using ha), List.filter_filter, List.append_assoc,
        List.singleton_append]
      congr 2
      apply List.filter_congr
      intro b _
      simp [not_or]

/-! ## 2. Warnings and problems -/

/-- What a warning is about: a name and how its use does not fit. -/
def SchemaWarning.problem (w : SchemaWarning) : Text × SchemaBreach := (w.name, w.breach)

/-- The reason that a warning about a schema gives, with the name it is about. -/
def SchemaWarning.reason (w : SchemaWarning) : Text × Text := (w.name, w.breach.message w.name)

namespace EnvSchema

variable (schema : EnvSchema)

/-- The problems of a usage. -/
def problems (u : Usage) : List (Text × SchemaBreach) :=
  (schema.breaches u).map fun breach => (u.name, breach)

theorem map_problem_addWarning (found : List SchemaWarning) (w : SchemaWarning) :
    (addWarning found w).map SchemaWarning.problem
      = addNew (found.map SchemaWarning.problem) w.problem := by
  have hseen : found.any (fun w' => w'.name = w.name ∧ w'.breach = w.breach)
      ↔ w.problem ∈ found.map SchemaWarning.problem := by
    simp only [List.any_eq_true, decide_eq_true_eq, List.mem_map, SchemaWarning.problem,
      Prod.mk.injEq]
  unfold addWarning addNew
  by_cases h : w.problem ∈ found.map SchemaWarning.problem
  · rw [if_pos (hseen.mpr h), if_pos h]
  · rw [if_neg (mt hseen.mp h), if_neg h, List.map_append, List.map_singleton]

theorem map_problem_check (found : List SchemaWarning) (u : Usage) :
    (schema.check found u).map SchemaWarning.problem
      = (schema.problems u).foldl addNew (found.map SchemaWarning.problem) := by
  unfold check problems
  induction schema.breaches u generalizing found with
  | nil => rfl
  | cons b bs ih =>
    rw [List.foldl_cons, ih, map_problem_addWarning, List.map_cons, List.foldl_cons]
    rfl

/-- The warnings are about the problems of all usages, without repeats, in the order in which they
come first. -/
theorem map_problem_checkAll (us : List Usage) :
    (schema.checkAll us).map SchemaWarning.problem = firsts (us.flatMap schema.problems) := by
  have hwalk (found : List SchemaWarning) :
      (us.foldl schema.check found).map SchemaWarning.problem
        = (us.flatMap schema.problems).foldl addNew (found.map SchemaWarning.problem) := by
    induction us generalizing found with
    | nil => rfl
    | cons u us ih =>
      rw [List.foldl_cons, ih, map_problem_check, List.flatMap_cons, List.foldl_append]
  rw [checkAll, hwalk, List.map_nil, foldl_addNew, List.nil_append]
  exact List.filter_eq_self.mpr fun b _ => decide_eq_true List.not_mem_nil

end EnvSchema

/-! ## 3. Reasons -/

/-- How the reason for a problem is written, with the name it is about. -/
def writtenReason (problem : Text × SchemaBreach) : Text × Text :=
  (problem.1, problem.2.message problem.1)

/-- No two messages begin with the same character. -/
theorem SchemaBreach.message_injective (name : Text) :
    Function.Injective (SchemaBreach.message name) := by
  have hhead (b : SchemaBreach) : (b.message name).head?
      = some (if b = .serverOnly then 'S' else if b = .clientOnly then 'C'
        else if b = .undeclared then '"' else 'P') := by
    cases b <;> rfl
  intro b b' h
  have hfirst := congrArg List.head? h
  rw [hhead, hhead] at hfirst
  revert hfirst
  cases b <;> cases b' <;> decide

theorem writtenReason_injective : Function.Injective writtenReason := by
  rintro ⟨name, b⟩ ⟨name', b'⟩ h
  obtain ⟨rfl, hmessage⟩ := Prod.mk.inj h
  exact congrArg (Prod.mk name) (SchemaBreach.message_injective name hmessage)

theorem SchemaWarning.reason_eq_iff {w w' : SchemaWarning} :
    w.reason = w'.reason ↔ w.name = w'.name ∧ w.breach = w'.breach := by
  rw [← Prod.mk.injEq]
  exact writtenReason_injective.eq_iff (a := w.problem) (b := w'.problem)

theorem addWarning_eq (found : List SchemaWarning) (w : SchemaWarning) :
    addWarning found w
      = if w.reason ∈ found.map SchemaWarning.reason then found else found ++ [w] := by
  have hseen : found.any (fun w' => w'.name = w.name ∧ w'.breach = w.breach)
      ↔ w.reason ∈ found.map SchemaWarning.reason := by
    simp only [List.any_eq_true, decide_eq_true_eq, List.mem_map, SchemaWarning.reason_eq_iff]
  unfold addWarning
  by_cases h : w.reason ∈ found.map SchemaWarning.reason
  · rw [if_pos (hseen.mpr h), if_pos h]
  · rw [if_neg (mt hseen.mp h), if_neg h]

/-- Of warnings with different reasons, those are added whose reason is new. -/
theorem foldl_addWarning {ws : List SchemaWarning} (h : (ws.map SchemaWarning.reason).Nodup)
    (found : List SchemaWarning) :
    ws.foldl addWarning found
      = found ++ ws.filter fun w => w.reason ∉ found.map SchemaWarning.reason := by
  induction ws generalizing found with
  | nil => exact (List.append_nil found).symm
  | cons w ws ih =>
    rw [List.map_cons, List.nodup_cons] at h
    rw [List.foldl_cons, ih h.2, addWarning_eq]
    by_cases hw : w.reason ∈ found.map SchemaWarning.reason
    · rw [if_pos hw, List.filter_cons_of_neg (by simpa using hw)]
    · have hlater : (ws.filter fun v => v.reason ∉ (found ++ [w]).map SchemaWarning.reason)
          = ws.filter fun v => v.reason ∉ found.map SchemaWarning.reason := by
        apply List.filter_congr
        intro v hv
        have hne : v.reason ≠ w.reason := fun heq => h.1 (heq ▸ List.mem_map_of_mem hv)
        simp [hne]
      rw [if_neg hw, List.filter_cons_of_pos (by simpa using hw), hlater, List.append_assoc,
        List.singleton_append]

/-! ## 4. What a usage adds -/

namespace EnvSchema

variable (schema : EnvSchema)

/-- The warnings about a usage that is checked on its own. -/
def warnings (u : Usage) : List SchemaWarning :=
  (schema.breaches u).map fun b => ⟨u.name, b, u.file, u.line⟩

theorem nodup_breaches (u : Usage) : (schema.breaches u).Nodup := by
  have hone {p : Prop} [Decidable p] (b : SchemaBreach) :
      (if p then [b] else []).Sublist [b] := by
    split
    · exact List.Sublist.refl [b]
    · exact List.nil_sublist [b]
  have hall : (schema.breaches u).Sublist
      ([.serverOnly] ++ [.clientOnly] ++ [.undeclared] ++ [.publicName]) :=
    (((hone _).append (hone _)).append (hone _)).append (hone _)
  exact hall.nodup (by decide)

theorem nodup_reason_warnings (u : Usage) :
    ((schema.warnings u).map SchemaWarning.reason).Nodup := by
  rw [warnings, List.map_map]
  exact (schema.nodup_breaches u).map fun b b' h =>
    SchemaBreach.message_injective u.name (Prod.mk.inj h).2

/-- A usage adds those of its warnings whose reason has not been given. -/
theorem check_eq (found : List SchemaWarning) (u : Usage) :
    schema.check found u
      = found ++ (schema.warnings u).filter fun w =>
          w.reason ∉ found.map SchemaWarning.reason := by
  rw [← foldl_addWarning (schema.nodup_reason_warnings u), warnings, List.foldl_map]
  rfl

theorem check_nil (u : Usage) : schema.check [] u = schema.warnings u := by
  rw [check_eq, List.nil_append]
  exact List.filter_eq_self.mpr fun w _ => decide_eq_true List.not_mem_nil

theorem mem_check {found : List SchemaWarning} {u : Usage} {w : SchemaWarning} :
    w ∈ schema.check found u
      ↔ w ∈ found ∨ w ∈ schema.warnings u ∧ w.reason ∉ found.map SchemaWarning.reason := by
  rw [check_eq, List.mem_append, List.mem_filter, decide_eq_true_eq]

theorem mem_reason_check {found : List SchemaWarning} {u : Usage} {r : Text × Text} :
    r ∈ (schema.check found u).map SchemaWarning.reason
      ↔ r ∈ found.map SchemaWarning.reason
        ∨ r ∈ (schema.warnings u).map SchemaWarning.reason := by
  simp only [List.mem_map, mem_check]
  constructor
  · rintro ⟨w, hw | ⟨hw, -⟩, rfl⟩
    · exact Or.inl ⟨w, hw, rfl⟩
    · exact Or.inr ⟨w, hw, rfl⟩
  · rintro (⟨w, hw, rfl⟩ | ⟨w, hw, rfl⟩)
    · exact ⟨w, Or.inl hw, rfl⟩
    · -- a reason that is there already is not given again
      by_cases hseen : ∃ v ∈ found, v.reason = w.reason
      · obtain ⟨v, hv, heq⟩ := hseen
        exact ⟨v, Or.inl hv, heq⟩
      · exact ⟨w, Or.inr ⟨hw, hseen⟩, rfl⟩

/-! ## 5. What the walk adds -/

theorem mem_reason_foldl_check {found : List SchemaWarning} {us : List Usage} {r : Text × Text} :
    r ∈ (us.foldl schema.check found).map SchemaWarning.reason
      ↔ r ∈ found.map SchemaWarning.reason
        ∨ ∃ u ∈ us, r ∈ (schema.warnings u).map SchemaWarning.reason := by
  induction us generalizing found with
  | nil => simp
  | cons u us ih => rw [List.foldl_cons, ih, mem_reason_check, List.exists_mem_cons_iff, or_assoc]

/-- A warning about the first usage that has its reason. -/
def IsFirst (us : List Usage) (w : SchemaWarning) : Prop :=
  ∃ before u after, us = before ++ u :: after ∧ w ∈ schema.warnings u
    ∧ ∀ v ∈ before, w.reason ∉ (schema.warnings v).map SchemaWarning.reason

theorem isFirst_cons {u : Usage} {us : List Usage} {w : SchemaWarning} :
    schema.IsFirst (u :: us) w
      ↔ w ∈ schema.warnings u
        ∨ w.reason ∉ (schema.warnings u).map SchemaWarning.reason ∧ schema.IsFirst us w := by
  constructor
  · rintro ⟨before, v, after, hsplit, hw, hfirst⟩
    cases before with
    | nil =>
      obtain ⟨rfl, rfl⟩ := List.cons.inj hsplit
      exact Or.inl hw
    | cons u' before =>
      obtain ⟨rfl, rfl⟩ := List.cons.inj hsplit
      rw [List.forall_mem_cons] at hfirst
      exact Or.inr ⟨hfirst.1, before, v, after, rfl, hw, hfirst.2⟩
  · rintro (hw | ⟨hnew, before, v, after, rfl, hw, hfirst⟩)
    · exact ⟨[], u, us, rfl, hw, List.forall_mem_nil _⟩
    · exact ⟨u :: before, v, after, rfl, hw, List.forall_mem_cons.mpr ⟨hnew, hfirst⟩⟩

/-- The walk keeps what was found and adds the first warning of each reason that is new. -/
theorem mem_foldl_check {found : List SchemaWarning} {us : List Usage} {w : SchemaWarning} :
    w ∈ us.foldl schema.check found
      ↔ w ∈ found ∨ w.reason ∉ found.map SchemaWarning.reason ∧ schema.IsFirst us w := by
  induction us generalizing found with
  | nil =>
    rw [List.foldl_nil, iff_self_or]
    rintro ⟨-, before, u, after, hsplit, -⟩
    exact absurd hsplit.symm (by simp)
  | cons u us ih =>
    rw [List.foldl_cons, ih, mem_check, mem_reason_check, isFirst_cons]
    tauto

/-- Usages that give no new reason add nothing. -/
theorem foldl_check_eq_self {found : List SchemaWarning} {us : List Usage}
    (h : ∀ u ∈ us, ∀ r ∈ (schema.warnings u).map SchemaWarning.reason,
      r ∈ found.map SchemaWarning.reason) : us.foldl schema.check found = found := by
  induction us with
  | nil => rfl
  | cons u us ih =>
    rw [List.forall_mem_cons] at h
    have hnone : schema.check found u = found := by
      rw [check_eq, List.append_right_eq_self, List.filter_eq_nil_iff]
      intro w hw
      simpa using h.1 w.reason (List.mem_map_of_mem hw)
    rw [List.foldl_cons, hnone, ih h.2]

theorem map_reason_checkAll (us : List Usage) :
    (schema.checkAll us).map SchemaWarning.reason
      = firsts (us.flatMap fun u => (schema.warnings u).map SchemaWarning.reason) := by
  have hwritten (ws : List SchemaWarning) :
      ws.map SchemaWarning.reason = (ws.map SchemaWarning.problem).map writtenReason := by
    rw [List.map_map]
    rfl
  have hproblems (u : Usage) :
      (schema.warnings u).map SchemaWarning.reason = (schema.problems u).map writtenReason := by
    unfold warnings problems
    rw [List.map_map, List.map_map]
    rfl
  rw [hwritten, map_problem_checkAll, ← firsts_map writtenReason_injective, List.map_flatMap]
  simp only [hproblems]

/-! ## 6. One warning for each reason -/

/-- A reason is given just if some usage has it when it is checked on its own, and none is given
twice.  Each warning is that of the first usage with its reason, and the warnings come in the order
in which their reasons do when usage after usage is checked on its own.  A check changes nothing
that was found before it, and a second check of the same usages finds nothing more. -/
theorem checkAll_one_per_reason (us : List Usage) :
    let reasons (u : Usage) : List (Text × Text) := (schema.check [] u).map SchemaWarning.reason
    let all : List SchemaWarning := schema.checkAll us
    (∀ r, r ∈ all.map SchemaWarning.reason ↔ ∃ u ∈ us, r ∈ reasons u)
      ∧ (all.map SchemaWarning.reason).Nodup
      ∧ (∀ w ∈ all, ∃ before u after, us = before ++ u :: after ∧ w ∈ schema.check [] u
          ∧ w.file = u.file ∧ w.line = u.line ∧ ∀ v ∈ before, w.reason ∉ reasons v)
      ∧ all.Pairwise (fun w w' =>
          (us.flatMap reasons).idxOf w.reason < (us.flatMap reasons).idxOf w'.reason)
      ∧ (∀ found u, found <+: schema.check found u)
      ∧ ∀ found, us.foldl schema.check (us.foldl schema.check found)
          = us.foldl schema.check found := by
  intro reasons all
  have hreasons : reasons = fun u => (schema.warnings u).map SchemaWarning.reason := by
    funext u
    exact congrArg _ (schema.check_nil u)
  have hall : all.map SchemaWarning.reason = firsts (us.flatMap reasons) := by
    rw [hreasons]
    exact schema.map_reason_checkAll us
  refine ⟨fun r => ?_, ?_, fun w hw => ?_, ?_, fun found u => ?_, fun found => ?_⟩
  · rw [hall, mem_firsts, List.mem_flatMap]
  · rw [hall]
    exact nodup_firsts _
  · obtain ⟨before, u, after, hsplit, hu, hfirst⟩ :=
      ((schema.mem_foldl_check.mp hw).resolve_left List.not_mem_nil).2
    obtain ⟨b, -, rfl⟩ := List.mem_map.mp hu
    rw [← check_nil] at hu
    rw [hreasons]
    exact ⟨before, u, after, hsplit, hu, rfl, rfl, hfirst⟩
  · rw [← List.pairwise_map (f := SchemaWarning.reason)
      (R := fun r r' => (us.flatMap reasons).idxOf r < (us.flatMap reasons).idxOf r'), hall]
    exact pairwise_idxOf_firsts _
  · rw [check_eq]
    exact List.prefix_append found _
  · refine schema.foldl_check_eq_self fun u hu r hr => ?_
    exact schema.mem_reason_foldl_check.mpr (Or.inr ⟨u, hu, hr⟩)

end EnvSchema

end EnvAudit
