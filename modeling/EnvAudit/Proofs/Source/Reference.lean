import Mathlib.Tactic.Tauto
import EnvAudit.Proofs.Lists
import EnvAudit.Proofs.Text.Matches
import EnvAudit.Proofs.Text.Rows
import EnvAudit.Source.Usage

/-!
# What a reference looks like

A reference is a fixed opening with a name behind it.  `AccessForm.Spells` says how each form is
written and `AccessForm.endsBefore` what may follow it; `AccessForm.read?_eq_some` says that the
reader of a form takes exactly these words.
-/

namespace EnvAudit

/-! ## 1. Names -/

/-- The characters of a name in capitals. -/
def isCapitalChar (c : Char) : Bool := isAsciiUpper c || isAsciiDigit c || c == '_'

/-- A name in capitals: letters, digits and underscores, the first no digit. -/
def IsCapitalName (name : Text) : Prop :=
  (∀ c ∈ name, isCapitalChar c) ∧ ∃ c ∈ name.head?, !isAsciiDigit c

/-- A name in source code: letters, digits and underscores, the first no digit. -/
def IsPlainName (name : Text) : Prop :=
  (∀ c ∈ name, isNameChar c) ∧ ∃ c ∈ name.head?, !isAsciiDigit c

theorem isNameChar_of_isCapitalChar {c : Char} (h : isCapitalChar c) : isNameChar c := by
  simp only [isCapitalChar, isNameChar, isAsciiLetter, Bool.or_eq_true] at h ⊢
  tauto

theorem isWordChar_of_isCapitalChar {c : Char} (h : isCapitalChar c) : isWordChar c :=
  isWordChar_of_isNameChar (isNameChar_of_isCapitalChar h)

theorem IsCapitalName.isPlainName {name : Text} (h : IsCapitalName name) : IsPlainName name :=
  ⟨fun c hc => isNameChar_of_isCapitalChar (h.1 c hc), h.2⟩

theorem closesWord_eq_all (s : Text) : Text.closesWord s = s.head?.all (!isWordChar ·) := by
  cases s <;> rfl

theorem capitalName?_eq_some {s name rest : Text} :
    capitalName? s = some (name, rest)
      ↔ s = name ++ rest ∧ IsCapitalName name ∧ Text.closesWord rest := by
  have hspan : capitalName? s = some (name, rest)
      ↔ (s.takeWhile isCapitalChar = name ∧ s.dropWhile isCapitalChar = rest)
        ∧ (∃ c ∈ name.head?, !isAsciiDigit c) ∧ Text.closesWord rest := by
    -- the reader writes its class out
    have hclass : (fun c => isAsciiUpper c || isAsciiDigit c || c == '_') = isCapitalChar := rfl
    simp only [capitalName?, hclass]
    grind
  -- where a word ends no capital can follow, so the run that is taken is the longest
  have hedge : Text.closesWord rest → rest.head?.all (!isCapitalChar ·) := by
    rw [closesWord_eq_all, Option.all_eq_true, Option.all_eq_true]
    intro h c hc
    have hword := h c hc
    rw [Bool.not_eq_true'] at hword ⊢
    exact Bool.eq_false_iff.mpr fun hcap =>
      Bool.eq_false_iff.mp hword (isWordChar_of_isCapitalChar hcap)
  rw [hspan, span_eq_iff]
  unfold IsCapitalName
  tauto

theorem anyName?_eq_some {s name rest : Text} :
    anyName? s = some (name, rest)
      ↔ s = name ++ rest ∧ IsPlainName name ∧ rest.head?.all (!isNameChar ·) := by
  have hspan : anyName? s = some (name, rest)
      ↔ (s.takeWhile isNameChar = name ∧ s.dropWhile isNameChar = rest)
        ∧ ∃ c ∈ name.head?, !isAsciiDigit c := by
    unfold anyName?
    grind
  rw [hspan, span_eq_iff]
  unfold IsPlainName
  tauto

/-! ## 2. The readers -/

theorem dottedName?_eq_some {opening s name rest : Text} {m : Option EnvModule} :
    (do
        let (found, after) ← capitalName? (← Text.after? opening s)
        return ((found, none), after)) = some ((name, m), rest)
      ↔ s = opening ++ (name ++ rest) ∧ IsCapitalName name ∧ Text.closesWord rest ∧ m = none := by
  simp only [Option.bind_eq_bind, Option.bind_eq_some_iff, Text.after?_eq_some, Prod.exists,
    capitalName?_eq_some, Option.pure_def, Option.some.injEq, Prod.mk.injEq]
  constructor
  · intro h
    rcases h with ⟨_, rfl, _, _, ⟨rfl, hname, hrest⟩, ⟨rfl, rfl⟩, rfl⟩
    exact ⟨rfl, hname, hrest, rfl⟩
  · intro h
    rcases h with ⟨rfl, hname, hrest, rfl⟩
    exact ⟨_, rfl, _, _, ⟨rfl, hname, hrest⟩, ⟨rfl, rfl⟩, rfl⟩

/-- No text begins with both words, so the order in which they are tried does not matter. -/
theorem eitherWord?_eq_some (yes no : String)
    (hne : ∀ t, Text.after? yes.toList (no.toList ++ t) = none) {s rest : Text} {b : Bool} :
    eitherWord? yes no s = some (b, rest) ↔ s = (if b then yes else no).toList ++ rest := by
  unfold eitherWord?
  cases b with
  | true =>
    rw [if_pos rfl, ← Text.after?_eq_some]
    cases Text.after? yes.toList s <;> simp
  | false =>
    show _ ↔ s = no.toList ++ rest
    cases hyes : Text.after? yes.toList s with
    | some t =>
      refine iff_of_false (by simp) ?_
      intro h
      rcases h with rfl
      rw [hne rest] at hyes
      cases hyes
    | none =>
      rw [← Text.after?_eq_some]
      simp

theorem path_append (envModule : EnvModule) (s : Text) :
    envModule.path ++ s
      = "$env/".toList ++ ((if envModule.isStatic then "static" else "dynamic").toList
        ++ (['/'] ++ ((if envModule.isPublic then "public" else "private").toList ++ s))) := by
  -- for any words: rewriting with these would compute their characters
  have hassoc (a b c d : Text) : a ++ b ++ c ++ d ++ s = a ++ (b ++ (c ++ (d ++ s))) := by
    rw [List.append_assoc, List.append_assoc, List.append_assoc]
  exact hassoc _ _ _ _

theorem moduleName?_eq_some {s name rest : Text} {m : Option EnvModule} :
    moduleName? s = some ((name, m), rest)
      ↔ ∃ envModule : EnvModule, s = envModule.path ++ '/' :: (name ++ rest) ∧ IsPlainName name
          ∧ rest.head?.all (!isNameChar ·) ∧ m = some envModule := by
  simp only [moduleName?, Option.bind_eq_bind, Option.bind_eq_some_iff, Text.after?_eq_some,
    Prod.exists, anyName?_eq_some, Option.pure_def, Option.some.injEq, Prod.mk.injEq,
    eitherWord?_eq_some "static" "dynamic" (fun _ => rfl),
    eitherWord?_eq_some "public" "private" (fun _ => rfl)]
  constructor
  · intro h
    rcases h with
      ⟨_, rfl, isStatic, _, rfl, _, rfl, isPublic, _, rfl, _, rfl, found, after,
        ⟨rfl, hname, hrest⟩, ⟨rfl, rfl⟩, rfl⟩
    have hpath := path_append ⟨isStatic, isPublic⟩ ('/' :: (found ++ after))
    exact ⟨⟨isStatic, isPublic⟩, hpath.symm, hname, hrest, rfl⟩
  · intro h
    rcases h with ⟨⟨isStatic, isPublic⟩, rfl, hname, hrest, rfl⟩
    have hpath := path_append ⟨isStatic, isPublic⟩ ('/' :: (name ++ rest))
    exact ⟨_, hpath, isStatic, _, rfl, _, rfl, isPublic, _, rfl, _, rfl, _, _,
      ⟨rfl, hname, hrest⟩, ⟨rfl, rfl⟩, rfl⟩

/-! ## 3. References -/

namespace AccessForm

/-- How a reference to a name is written. -/
inductive Spells : AccessForm → Text → Option EnvModule → Text → Prop
  | processEnv {name : Text} (hname : IsCapitalName name) :
      Spells .processEnv name none ("process.env.".toList ++ name)
  | importMetaEnv {name : Text} (hname : IsCapitalName name) :
      Spells .importMetaEnv name none ("import.meta.env.".toList ++ name)
  | svelteModule {name : Text} (envModule : EnvModule) (hname : IsPlainName name) :
      Spells .svelteModule name (some envModule) (envModule.path ++ '/' :: name)

theorem Spells.isPlainName {form : AccessForm} {name word : Text} {m : Option EnvModule}
    (h : form.Spells name m word) : IsPlainName name := by
  cases h with
  | processEnv hname => exact hname.isPlainName
  | importMetaEnv hname => exact hname.isPlainName
  | svelteModule _ hname => exact hname

/-- Whether a reference may end before the text: a name in capitals ends where a word does, any
other name where its characters do. -/
def endsBefore : AccessForm → Text → Bool
  | .svelteModule, rest => rest.head?.all (!isNameChar ·)
  | _, rest => Text.closesWord rest

theorem read?_eq_some {form : AccessForm} {s name rest : Text} {m : Option EnvModule} :
    form.read? s = some ((name, m), rest)
      ↔ ∃ word, s = word ++ rest ∧ form.Spells name m word ∧ form.endsBefore rest := by
  constructor
  · intro h
    cases form with
    | processEnv =>
      rcases dottedName?_eq_some.mp h with ⟨rfl, hname, hrest, rfl⟩
      exact ⟨_, (List.append_assoc _ _ _).symm, .processEnv hname, hrest⟩
    | importMetaEnv =>
      rcases dottedName?_eq_some.mp h with ⟨rfl, hname, hrest, rfl⟩
      exact ⟨_, (List.append_assoc _ _ _).symm, .importMetaEnv hname, hrest⟩
    | svelteModule =>
      rcases moduleName?_eq_some.mp h with ⟨envModule, rfl, hname, hrest, rfl⟩
      exact ⟨_, (List.append_assoc _ ('/' :: name) rest).symm, .svelteModule envModule hname, hrest⟩
  · intro h
    rcases h with ⟨word, rfl, hword, hrest⟩
    cases hword with
    | processEnv hname =>
      exact dottedName?_eq_some.mpr ⟨List.append_assoc _ _ _, hname, hrest, rfl⟩
    | importMetaEnv hname =>
      exact dottedName?_eq_some.mpr ⟨List.append_assoc _ _ _, hname, hrest, rfl⟩
    | svelteModule envModule hname =>
      exact moduleName?_eq_some.mpr
        ⟨envModule, List.append_assoc _ ('/' :: name) rest, hname, hrest, rfl⟩

/-! ## 4. What stands in a reference -/

/-- The character that a reference of the form begins with. -/
def firstChar : AccessForm → Char
  | .processEnv => 'p'
  | .importMetaEnv => 'i'
  | .svelteModule => '$'

theorem not_mem_of_class {p : Char → Bool} {name : Text} (h : ∀ c ∈ name, p c) {c : Char}
    (hc : p c = false) : c ∉ name := by
  intro hmem
  rw [h c hmem] at hc
  cases hc

theorem exists_path_eq (envModule : EnvModule) :
    ∃ w, envModule.path = '$' :: w ∧ '$' ∉ w ∧ '\n' ∉ w := by
  -- four modules, each with a path of its own
  rcases envModule with ⟨_ | _, _ | _⟩ <;> exact ⟨_, rfl, by decide, by decide⟩

/-- A reference stands on one row, and its first character does not come again in it. -/
theorem Spells.exists_eq_cons {form : AccessForm} {name word : Text} {m : Option EnvModule}
    (h : form.Spells name m word) :
    '\n' ∉ word ∧ ∃ w, word = form.firstChar :: w ∧ form.firstChar ∉ w := by
  cases h with
  | processEnv hname =>
    have hp : 'p' ∉ name := not_mem_of_class hname.1 (by decide)
    have hn : '\n' ∉ name := not_mem_of_class hname.1 (by decide)
    have hw : 'p' ∉ "rocess.env.".toList ++ name := List.not_mem_append (by decide) hp
    exact ⟨List.not_mem_append (by decide) hn, _, rfl, hw⟩
  | importMetaEnv hname =>
    have hi : 'i' ∉ name := not_mem_of_class hname.1 (by decide)
    have hn : '\n' ∉ name := not_mem_of_class hname.1 (by decide)
    have hw : 'i' ∉ "mport.meta.env.".toList ++ name := List.not_mem_append (by decide) hi
    exact ⟨List.not_mem_append (by decide) hn, _, rfl, hw⟩
  | svelteModule envModule hname =>
    have hd : '$' ∉ '/' :: name := List.not_mem_cons_of_ne_of_not_mem (by decide)
      (not_mem_of_class hname.1 (by decide))
    have hn : '\n' ∉ '/' :: name := List.not_mem_cons_of_ne_of_not_mem (by decide)
      (not_mem_of_class hname.1 (by decide))
    rcases exists_path_eq envModule with ⟨w, hpath, hdw, hnw⟩
    rw [hpath]
    have hnpath : '\n' ∉ '$' :: w := List.not_mem_cons_of_ne_of_not_mem (by decide) hnw
    exact ⟨List.not_mem_append hnpath hn, _, rfl, List.not_mem_append hdw hd⟩

theorem beginsWith_read? (form : AccessForm) : Text.BeginsWith form.firstChar form.read? := by
  intro s value rest h
  rcases read?_eq_some.mp h with ⟨word, rfl, hword, _⟩
  rcases hword.exists_eq_cons with ⟨_, w, rfl, hw⟩
  exact ⟨w, rfl, hw⟩

/-- The end of a row ends a reference just as the end of the text does. -/
theorem endsBefore_takeWhile (form : AccessForm) (s : Text) :
    form.endsBefore (s.takeWhile (· ≠ '\n')) = form.endsBefore s := by
  cases s with
  | nil => rfl
  | cons c s =>
    by_cases hc : c = '\n'
    · subst hc
      rw [List.takeWhile_cons_of_neg (by decide)]
      cases form <;> rfl
    · rw [List.takeWhile_cons_of_pos (by simpa using hc)]
      cases form <;> rfl

/-- The reader of a form finds on a row what it finds in the text. -/
theorem read?_takeWhile (form : AccessForm) (s : Text) (value : Text × Option EnvModule) :
    (∃ rest, form.read? (s.takeWhile (· ≠ '\n')) = some (value, rest))
      ↔ ∃ rest, form.read? s = some (value, rest) := by
  rcases value with ⟨name, m⟩
  simp only [read?_eq_some]
  constructor
  · intro h
    rcases h with ⟨rest, word, hs, hword, hrest⟩
    rcases Text.exists_of_takeWhile_eq_append hs with ⟨_, after, rfl, rfl⟩
    rw [endsBefore_takeWhile] at hrest
    exact ⟨after, word, rfl, hword, hrest⟩
  · intro h
    rcases h with ⟨rest, word, rfl, hword, hrest⟩
    rw [← endsBefore_takeWhile] at hrest
    have hrow := Text.takeWhile_append_of_not_mem hword.exists_eq_cons.1 rest
    exact ⟨_, word, hrow, hword, hrest⟩

end AccessForm

end EnvAudit
