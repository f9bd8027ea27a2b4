import EnvAudit.Proofs.Project.FirstSection

/-!
# The keys that a section declares

The keys of a section are found by three passes: the block is cut off at the brace that closes it,
it is flattened to what stands outside brackets, and the lines of the flattened text are searched.
`DeclaresKeys` says how the body of a section is written, `topLevelKeys_eq` that the passes lose no
key of such a body and find no other, whatever is nested in the values, and
`EnvSchema.parse_of_declaresKeys` that a file with such sections is read as it is written.
-/

namespace EnvAudit

/-! ## 1. How a section is written -/

/-- The value of a key: it closes the braces that it opens, and likewise its brackets of all kinds;
outside of them it has no comma and no line end. -/
structure IsSchemaValue (value : Text) : Prop where
  braces : IsBalanced isLeftBrace isRightBrace value
  brackets : IsBalanced isOpening isClosing value
  no_comma : ',' ∉ outside 0 value
  no_lineEnd : '\n' ∉ outside 0 value

/-- A key with its value, the key bare or in quotes. -/
structure SchemaEntry where
  gap : Text
  mark : Text
  key : Text
  value : Text
  isBlank_gap : ∀ c ∈ gap, isBlank c
  mark_eq : mark = [] ∨ mark = ['"'] ∨ mark = ['\'']
  isPlainName : IsPlainName key
  isValue : IsSchemaValue value

namespace SchemaEntry

/-- The entry up to its colon. -/
def front (e : SchemaEntry) : Text := e.gap ++ (e.mark ++ (e.key ++ (e.mark ++ [':'])))

def text (e : SchemaEntry) : Text := e.front ++ e.value

end SchemaEntry

/-- The body of a section has entries with commas between them, and declares their keys.  A comma
and white space may stand behind the last entry. -/
inductive DeclaresKeys : Text → List Text → Prop
  | last (e : SchemaEntry) {gap : Text} (hgap : ∀ c ∈ gap, isBlank c) :
    DeclaresKeys (e.text ++ gap) [e.key]
  | lastComma (e : SchemaEntry) {gap : Text} (hgap : ∀ c ∈ gap, isBlank c) :
    DeclaresKeys (e.text ++ ',' :: gap) [e.key]
  | cons (e : SchemaEntry) {body : Text} {keys : List Text} (hbody : DeclaresKeys body keys) :
    DeclaresKeys (e.text ++ ',' :: body) (e.key :: keys)

/-! ## 2. What the flattening leaves alone -/

/-- Neither a bracket nor a comma. -/
def isFlat (c : Char) : Bool := !isOpening c && !isClosing c && c != ','

/-- A class without brackets and the comma. -/
theorem isFlat_of_class {p : Char → Bool}
    (hp : ['\x7b', '(', '[', '\x7d', ')', ']', ','].all (!p ·)) {c : Char} (hc : p c) :
    isFlat c := by
  have hne (d : Char) (hd : d ∈ ['\x7b', '(', '[', '\x7d', ')', ']', ',']) : c ≠ d := by
    rintro rfl
    have hnot := List.all_eq_true.mp hp c hd
    rw [hc] at hnot
    cases hnot
  simp [isFlat, isOpening, isClosing, hne '\x7b', hne '(', hne '[', hne '\x7d', hne ')', hne ']',
    hne ',']

theorem isFlat_of_isBlank {c : Char} (h : isBlank c) : isFlat c :=
  isFlat_of_class (p := isBlank) (by decide) h

section

variable {s : Text}

theorem noBracket_of_isFlat (hs : ∀ c ∈ s, isFlat c) : ∀ c ∈ s, !isOpening c && !isClosing c :=
  fun c hc => (Bool.and_eq_true_iff.mp (hs c hc)).1

theorem isBalanced_braces_of_isFlat (hs : ∀ c ∈ s, isFlat c) :
    IsBalanced isLeftBrace isRightBrace s := by
  apply isBalanced_of_forall
  intro c hc
  have hbracket := noBracket_of_isFlat hs c hc
  simp only [isOpening, isClosing, Bool.and_eq_true, Bool.not_eq_true', Bool.or_eq_false_iff]
    at hbracket ⊢
  exact ⟨hbracket.1.1.1, hbracket.2.1.1⟩

theorem outerText_append_of_isFlat (hs : ∀ c ∈ s, isFlat c) (t : Text) :
    outerText 0 (s ++ t) = s ++ outerText 0 t := by
  have hself := outside_eq_self (noBracket_of_isFlat hs)
  have hcomma : ',' ∉ outside 0 s := by
    rw [hself]
    intro hmem
    exact absurd (hs ',' hmem) (by decide)
  rw [outerText_append (isBalanced_of_forall (noBracket_of_isFlat hs)) hcomma, hself]

theorem outerText_eq_self (hs : ∀ c ∈ s, isFlat c) : outerText 0 s = s := by
  have happend := outerText_append_of_isFlat hs []
  rwa [List.append_nil, outerText, List.append_nil] at happend

end

namespace SchemaEntry

variable (e : SchemaEntry)

theorem isFlat_front : ∀ c ∈ e.front, isFlat c := by
  have hmark : e.mark.all isFlat := by
    obtain hmark | hmark | hmark := e.mark_eq <;> rw [hmark] <;> rfl
  have hkey {c : Char} (hc : c ∈ e.key) : isFlat c :=
    isFlat_of_class (p := isNameChar) (by decide) (e.isPlainName.1 c hc)
  intro c hc
  simp only [front, List.mem_append, List.mem_singleton] at hc
  obtain hc | hc | hc | hc | rfl := hc
  · exact isFlat_of_isBlank (e.isBlank_gap c hc)
  · exact List.all_eq_true.mp hmark c hc
  · exact hkey hc
  · exact List.all_eq_true.mp hmark c hc
  · decide

theorem isBalanced_text : IsBalanced isLeftBrace isRightBrace e.text :=
  (isBalanced_braces_of_isFlat e.isFlat_front).append e.isValue.braces

theorem outerText_text_append (t : Text) :
    outerText 0 (e.text ++ t) = e.front ++ (outside 0 e.value ++ outerText 0 t) := by
  rw [text, List.append_assoc, outerText_append_of_isFlat e.isFlat_front,
    outerText_append e.isValue.brackets e.isValue.no_comma]

end SchemaEntry

/-! ## 3. The lines of the flattened text -/

section

variable {before : Option Char} {c : Char} {s : Text}

theorem lineKey?_of_ne (hc : c ≠ '\n') : lineKey? (some c) s = none := by
  have hline : (((some c).map (· == '\n')).getD true) = false := beq_eq_false_iff_ne.mpr hc
  rw [lineKey?, hline]
  rfl

theorem lineKey?_of_isBlank (hs : ∀ c ∈ s, isBlank c) : lineKey? before s = none := by
  have hdrop : s.dropWhile isBlank = [] := List.dropWhile_eq_nil_iff.mpr hs
  unfold lineKey?
  rw [hdrop]
  cases (before.map (· == '\n')).getD true <;> rfl

theorem head?_all_of_isPlainName {name : Text} (hname : IsPlainName name) {p : Char → Bool}
    (hp : ∀ c, isNameChar c → p c) (t : Text) : (name ++ t).head?.all p := by
  cases name with
  | nil =>
    obtain ⟨_, hc, _⟩ := hname.2
    cases hc
  | cons c name => exact hp c (hname.1 c List.mem_cons_self)

/-- At the start of a line the front of an entry is read. -/
theorem SchemaEntry.lineKey?_front (e : SchemaEntry)
    (hbefore : before = none ∨ before = some '\n') :
    lineKey? before (e.front ++ s) = some (e.key, s) := by
  have hline : (before.map (· == '\n')).getD true = true := by
    obtain rfl | rfl := hbefore <;> rfl
  have hmark (c : Char) (hc : isNameChar c) : !(c == '"' || c == '\'') := by
    rw [Bool.not_eq_true', Bool.eq_false_iff, Ne, Bool.or_eq_true, beq_iff_eq, beq_iff_eq]
    rintro (rfl | rfl) <;> revert hc <;> decide
  have hblank (c : Char) (hc : isNameChar c) : !isBlank c := by
    rw [not_isBlank_of_isNameChar hc]
    rfl
  have hopen := getD_afterOne?_closing e.mark_eq
    (head?_all_of_isPlainName e.isPlainName hmark (e.mark ++ ':' :: s))
  have hclose := getD_afterOne?_closing e.mark_eq (s := ':' :: s) rfl
  have hname : anyName? (e.key ++ (e.mark ++ ':' :: s)) = some (e.key, e.mark ++ ':' :: s) := by
    refine anyName?_eq_some.mpr ⟨rfl, e.isPlainName, ?_⟩
    obtain h | h | h := e.mark_eq <;> rw [h] <;> rfl
  have hdrop : (e.front ++ s).dropWhile isBlank = e.mark ++ (e.key ++ (e.mark ++ ':' :: s)) := by
    refine (span_eq_iff.mpr ⟨?_, e.isBlank_gap, ?_⟩).2
    · simp only [front, List.append_assoc, List.singleton_append]
    · obtain h | h | h := e.mark_eq <;> rw [h]
      · exact head?_all_of_isPlainName e.isPlainName hblank _
      · rfl
      · rfl
  unfold lineKey?
  rw [hline, hdrop]
  simp only [hopen, hname, Option.bind_eq_bind, Option.bind_some, hclose]
  rfl

/-- No key begins on the rest of a line. -/
theorem exists_valuesAfter_lineKey?_append (hc : c ≠ '\n') {w : Text} (hw : '\n' ∉ w) (t : Text) :
    ∃ d, d ≠ '\n' ∧ Text.valuesAfter lineKey? (some c) (w ++ t)
      = Text.valuesAfter lineKey? (some d) t := by
  induction w generalizing c with
  | nil => exact ⟨c, hc, rfl⟩
  | cons d w ih =>
    rw [List.mem_cons, not_or] at hw
    rw [List.cons_append, Text.valuesAfter_of_none (lineKey?_of_ne hc)]
    exact ih (Ne.symm hw.1) hw.2

theorem valuesAfter_lineKey?_line (hc : c ≠ '\n') {w : Text} (hw : '\n' ∉ w) (t : Text) :
    Text.valuesAfter lineKey? (some c) (w ++ '\n' :: t)
      = Text.valuesAfter lineKey? (some '\n') t := by
  obtain ⟨d, hd, hrest⟩ := exists_valuesAfter_lineKey?_append hc hw ('\n' :: t)
  rw [hrest, Text.valuesAfter_of_none (lineKey?_of_ne hd)]

/-- Nor does one begin on white space. -/
theorem valuesAfter_lineKey?_blank {gap : Text} (hgap : ∀ c ∈ gap, isBlank c) :
    Text.valuesAfter lineKey? before gap = [] := by
  induction gap generalizing before with
  | nil => rfl
  | cons c gap ih =>
    rw [Text.valuesAfter_of_none (lineKey?_of_isBlank hgap)]
    exact ih (List.forall_mem_cons.mp hgap).2

theorem valuesAfter_lineKey?_end (hc : c ≠ '\n') {w gap : Text} (hw : '\n' ∉ w)
    (hgap : ∀ c ∈ gap, isBlank c) : Text.valuesAfter lineKey? (some c) (w ++ gap) = [] := by
  obtain ⟨_, _, hrest⟩ := exists_valuesAfter_lineKey?_append hc hw gap
  rw [hrest, valuesAfter_lineKey?_blank hgap]

end

/-! ## 4. The keys of a body -/

/-- An entry gives its key; the search is then behind the colon. -/
theorem SchemaEntry.valuesAfter_front (e : SchemaEntry) {before : Option Char}
    (hbefore : before = none ∨ before = some '\n') (t : Text) :
    Text.valuesAfter lineKey? before (e.front ++ t)
      = e.key :: Text.valuesAfter lineKey? (some ':') t := by
  have hlast : e.front.getLast? = some ':' := by
    simp only [front, ← List.append_assoc, List.getLast?_concat]
  have hne : e.front ≠ [] := by
    intro h
    rw [h] at hlast
    cases hlast
  rw [Text.valuesAfter_of_some hne (e.lineKey?_front hbefore), hlast]

theorem DeclaresKeys.valuesAfter_eq {body : Text} {keys : List Text} (h : DeclaresKeys body keys)
    {before : Option Char} (hbefore : before = none ∨ before = some '\n') :
    Text.valuesAfter lineKey? before (outerText 0 body) = keys := by
  -- the flattening puts a line end behind the comma
  have hcomma (e : SchemaEntry) {before : Option Char}
      (hbefore : before = none ∨ before = some '\n') (t : Text) :
      Text.valuesAfter lineKey? before (outerText 0 (e.text ++ ',' :: t))
        = e.key :: Text.valuesAfter lineKey? (some '\n') (outerText 0 t) := by
    have hline : '\n' ∉ outside 0 e.value ++ [','] := by
      simpa using e.isValue.no_lineEnd
    have hflat : outerText 0 (',' :: t) = ',' :: '\n' :: outerText 0 t := rfl
    rw [e.outerText_text_append, hflat, e.valuesAfter_front hbefore, List.append_cons,
      valuesAfter_lineKey?_line (by decide) hline]
  induction h generalizing before with
  | last e hgap =>
    rw [e.outerText_text_append, e.valuesAfter_front hbefore,
      outerText_eq_self fun c hc => isFlat_of_isBlank (hgap c hc),
      valuesAfter_lineKey?_end (by decide) e.isValue.no_lineEnd hgap]
  | lastComma e hgap =>
    rw [hcomma e hbefore, outerText_eq_self fun c hc => isFlat_of_isBlank (hgap c hc),
      valuesAfter_lineKey?_blank hgap]
  | cons e _ ih => rw [hcomma e hbefore, ih (Or.inr rfl)]

/-- The keys of a body are found, and nothing else. -/
theorem topLevelKeys_eq {body : Text} {keys : List Text} (h : DeclaresKeys body keys) :
    topLevelKeys body = keys :=
  h.valuesAfter_eq (Or.inl rfl)

theorem DeclaresKeys.isBalanced {body : Text} {keys : List Text} (h : DeclaresKeys body keys) :
    IsBalanced isLeftBrace isRightBrace body := by
  have hblank {gap : Text} (hgap : ∀ c ∈ gap, isBlank c) :
      IsBalanced isLeftBrace isRightBrace gap :=
    isBalanced_braces_of_isFlat fun c hc => isFlat_of_isBlank (hgap c hc)
  have hcomma {t : Text} (ht : IsBalanced isLeftBrace isRightBrace t) :
      IsBalanced isLeftBrace isRightBrace (',' :: t) := ht
  induction h with
  | last e hgap => exact e.isBalanced_text.append (hblank hgap)
  | lastComma e hgap => exact e.isBalanced_text.append (hcomma (hblank hgap))
  | cons e _ ih => exact e.isBalanced_text.append (hcomma ih)

theorem DeclaresKeys.ne_nil {body : Text} {keys : List Text} (h : DeclaresKeys body keys) :
    keys ≠ [] := by
  cases h <;> exact List.cons_ne_nil _ _

/-! ## 5. The keys of a file -/

theorem EnvSchema.side_parse_of_declaresKeys {isServer : Bool} {content body after : Text}
    {keys : List Text} (h : SectionHeader isServer content) (hfirst : h.IsFirst)
    (hrest : h.rest = body ++ '\x7d' :: after) (hbody : DeclaresKeys body keys) :
    (EnvSchema.parse content).side isServer = keys := by
  have hkeys : h.keys = keys := by
    rw [SectionHeader.keys, blockKeys_of_endsBody ⟨after, hrest, hbody.isBalanced⟩,
      topLevelKeys_eq hbody]
  rw [← hkeys]
  exact side_parse_eq_keys h (hkeys ▸ hbody.ne_nil) fun h' _ => hfirst h'

/-- A file whose first sections are written as such declares the keys of both. -/
theorem EnvSchema.parse_of_declaresKeys {content body body' after after' : Text}
    {keys keys' : List Text} (server : SectionHeader true content)
    (client : SectionHeader false content) (hserver : server.IsFirst) (hclient : client.IsFirst)
    (hrest : server.rest = body ++ '\x7d' :: after)
    (hrest' : client.rest = body' ++ '\x7d' :: after')
    (hbody : DeclaresKeys body keys) (hbody' : DeclaresKeys body' keys') :
    EnvSchema.parse content = ⟨keys, keys'⟩ := by
  have hserverKeys : (EnvSchema.parse content).server = keys :=
    side_parse_of_declaresKeys server hserver hrest hbody
  have hclientKeys : (EnvSchema.parse content).client = keys' :=
    side_parse_of_declaresKeys client hclient hrest' hbody'
  rw [← hserverKeys, ← hclientKeys]

/-- Bare and quoted keys, a value with an object nested in it, and one with no text. -/
theorem EnvSchema.parse_nestedObject :
    EnvSchema.parse ("createEnv(\x7b server: \x7b\n\"A\": f(\x7bx: 1,\ny: 2\x7d),'B':,\n\x7d, "
        ++ "client: \x7bC: a ? b : c \x7d\x7d)").toList
      = ⟨["A".toList, "B".toList], ["C".toList]⟩ := by
  let a : SchemaEntry := ⟨['\n'], ['"'], ['A'], " f(\x7bx: 1,\ny: 2\x7d)".toList,
    List.all_eq_true.mp rfl, Or.inr (Or.inl rfl), ⟨List.all_eq_true.mp rfl, 'A', rfl, rfl⟩,
    ⟨by decide, by decide, by decide, by decide⟩⟩
  let b : SchemaEntry := ⟨[], ['\''], ['B'], [],
    List.all_eq_true.mp rfl, Or.inr (Or.inr rfl), ⟨List.all_eq_true.mp rfl, 'B', rfl, rfl⟩,
    ⟨by decide, by decide, by decide, by decide⟩⟩
  let c : SchemaEntry := ⟨[], [], ['C'], " a ? b : c".toList,
    List.all_eq_true.mp rfl, Or.inl rfl, ⟨List.all_eq_true.mp rfl, 'C', rfl, rfl⟩,
    ⟨by decide, by decide, by decide, by decide⟩⟩
  let body : Text := a.text ++ ',' :: (b.text ++ ',' :: ['\n'])
  let body' : Text := c.text ++ [' ']
  let front : Text := "createEnv(\x7b server: \x7b".toList ++ (body ++ "\x7d, ".toList)
  let content : Text := front ++ ("client: \x7b".toList ++ (body' ++ "\x7d\x7d)".toList))
  let server : SectionHeader true content := ⟨"createEnv(\x7b ".toList, "server: \x7b".toList,
    body ++ '\x7d' :: (", client: \x7b".toList ++ (body' ++ "\x7d\x7d)".toList)), rfl, rfl,
    [], [' '], rfl, List.forall_mem_nil _, List.forall_mem_singleton.mpr rfl⟩
  let client : SectionHeader false content := ⟨front, "client: \x7b".toList,
    body' ++ "\x7d\x7d)".toList, rfl, rfl,
    [], [' '], rfl, List.forall_mem_nil _, List.forall_mem_singleton.mpr rfl⟩
  have hcontent : ("createEnv(\x7b server: \x7b\n\"A\": f(\x7bx: 1,\ny: 2\x7d),'B':,\n\x7d, "
      ++ "client: \x7bC: a ? b : c \x7d\x7d)").toList = content := by
    decide +kernel
  have hserver : server.IsFirst := server.isFirst_of_forall_place (by decide +kernel)
  have hclient : client.IsFirst := client.isFirst_of_forall_place (by decide +kernel)
  have hbody : DeclaresKeys body ["A".toList, "B".toList] :=
    .cons a (.lastComma b (List.forall_mem_singleton.mpr rfl : ∀ c ∈ ['\n'], isBlank c))
  have hbody' : DeclaresKeys body' ["C".toList] :=
    .last c (List.forall_mem_singleton.mpr rfl : ∀ c ∈ [' '], isBlank c)
  rw [hcontent]
  exact EnvSchema.parse_of_declaresKeys server client hserver hclient rfl rfl hbody hbody'

end EnvAudit
