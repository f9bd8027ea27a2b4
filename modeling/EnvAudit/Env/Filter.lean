import EnvAudit.Env.Map
import EnvAudit.Pattern.Reader

/-!
# Ignored keys

A user takes keys out of every check, by name or by a pattern that matches in the name.
-/

namespace EnvAudit

/-- The names and patterns of the keys that no check looks at. -/
structure KeyFilter where
  names : List Text
  patterns : List Pattern

namespace KeyFilter

def empty : KeyFilter := ⟨[], []⟩

/-- Whether nothing is ignored. -/
def isEmpty (f : KeyFilter) : Bool := f.names.isEmpty && f.patterns.isEmpty

def ignores (f : KeyFilter) (key : Text) : Bool :=
  f.names.contains key || f.patterns.any fun p => p.isIn key

/-- Whether a key is left in the checks. -/
def keeps (f : KeyFilter) (key : Text) : Bool := !f.ignores key

/-- The map without the ignored keys. -/
def apply (f : KeyFilter) (m : EnvMap) : EnvMap := m.filterKeys f.keeps

@[simp] theorem keys_apply (f : KeyFilter) (m : EnvMap) :
    (f.apply m).keys = m.keys.filter f.keeps :=
  EnvMap.keys_filterKeys f.keeps m

theorem keeps_empty (key : Text) : empty.keeps key = true := rfl

theorem apply_empty (m : EnvMap) : empty.apply m = m :=
  EnvMap.ext (List.filter_eq_self.mpr fun e _ => keeps_empty e.1)

/-- One filter is below another if the other ignores every key that it ignores. -/
instance : LE KeyFilter := ⟨fun f g => ∀ key, f.ignores key → g.ignores key⟩

theorem keeps_of_le {f g : KeyFilter} (h : f ≤ g) {key : Text} (hk : g.keeps key) :
    f.keeps key := by
  simp only [keeps, Bool.not_eq_true'] at hk ⊢
  exact Bool.eq_false_iff.mpr fun hf => Bool.eq_false_iff.mp hk (h key hf)

/-- More names and more patterns ignore more keys. -/
theorem le_append (f : KeyFilter) (names : List Text) (patterns : List Pattern) :
    f ≤ ⟨f.names ++ names, f.patterns ++ patterns⟩ := by
  intro key h
  simp only [ignores, Bool.or_eq_true, List.contains_iff_mem, List.any_append,
    List.mem_append] at h ⊢
  exact h.imp Or.inl Or.inl

/-- The patterns of the texts, or the first text that is no pattern. -/
def readPatterns : List Text → Except Text (List Pattern)
  | [] => .ok []
  | s :: ss =>
    match Pattern.parse? s with
    | none => .error s
    | some p => (readPatterns ss).map (p :: ·)

/-- The filter of these names and written patterns, or the first pattern that is none. -/
def build (names patterns : List Text) : Except Text KeyFilter :=
  (readPatterns patterns).map fun ps => ⟨names, ps⟩

end KeyFilter

end EnvAudit
