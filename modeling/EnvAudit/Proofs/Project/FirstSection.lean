import Mathlib.Data.Option.Basic
import EnvAudit.Proofs.Project.Brackets
import EnvAudit.Proofs.Source.LiteralAssignment
import EnvAudit.Proofs.Text.Matches

/-!
# Which section of a schema counts

A schema file has a server and a client section, and only the first of each should count.  The pass
over the headers takes a section whenever the keys of its side are still empty, so that a section
counts if no section before it on the same side has a key: `side_parse_iff_firstSection`.
-/

namespace EnvAudit

/-! ## 1. Headers -/

/-- How the header of a section is written, up to its brace. -/
def IsSectionOpening (isServer : Bool) (opening : Text) : Prop :=
  ∃ gap gap', opening
      = (if isServer then "server" else "client").toList ++ (gap ++ ':' :: (gap' ++ ['\x7b']))
    ∧ (∀ c ∈ gap, isBlank c) ∧ ∀ c ∈ gap', isBlank c

/-- A header of a section in a text: the parts that the text falls into. -/
structure SectionHeader (isServer : Bool) (content : Text) where
  before : Text
  opening : Text
  rest : Text
  content_eq : content = before ++ (opening ++ rest)
  opensWord : Text.opensWord before.getLast?
  isOpening : IsSectionOpening isServer opening

/-- The keys of the block that is open at the front of the text; none if nothing closes it. -/
def blockKeys (rest : Text) : List Text := ((braceBody? 1 rest).map topLevelKeys).getD []

theorem blockKeys_of_endsBody {rest body : Text} (h : EndsBody 0 rest body) :
    blockKeys rest = topLevelKeys body := by
  rw [blockKeys, braceBody?_eq_some.mpr h]
  rfl

theorem blockKeys_of_not_endsBody {rest : Text} (h : ∀ body, ¬ EndsBody 0 rest body) :
    blockKeys rest = [] := by
  have hnone : braceBody? 1 rest = none :=
    Option.eq_none_iff_forall_ne_some.mpr fun body hbody => h body (braceBody?_eq_some.mp hbody)
  rw [blockKeys, hnone]
  rfl

namespace SectionHeader

variable {isServer : Bool} {content : Text}

/-- The keys of the block that the header opens. -/
def keys (h : SectionHeader isServer content) : List Text := blockKeys h.rest

/-- No other header of the side begins before this one. -/
def IsFirst (h : SectionHeader isServer content) : Prop :=
  ∀ h' : SectionHeader isServer content, h.before.length ≤ h'.before.length

end SectionHeader

theorem sectionHeader?_eq_some {before : Option Char} {s rest rest' : Text} {isServer : Bool} :
    sectionHeader? before s = some ((isServer, rest), rest')
      ↔ rest' = rest ∧ Text.opensWord before
          ∧ ∃ opening, IsSectionOpening isServer opening ∧ s = opening ++ rest := by
  have hafter (c : Char) (t u : Text) : Text.after? [c] t = some u ↔ t = c :: u :=
    Text.after?_eq_some
  unfold sectionHeader?
  simp only [Option.bind_eq_bind, Option.bind_eq_some_iff, Option.guard_eq_some', Prod.exists,
    eitherWord?_eq_some "server" "client" (fun _ => rfl), hafter, Option.pure_def,
    Option.some.injEq, Prod.mk.injEq]
  constructor
  · intro h
    obtain ⟨_, hopen, word, _, rfl, _, hcolon, _, hbrace, ⟨rfl, rfl⟩, rfl⟩ := h
    obtain ⟨gap, rfl, hgap⟩ := exists_of_dropWhile_eq hcolon
    obtain ⟨gap', rfl, hgap'⟩ := exists_of_dropWhile_eq hbrace
    refine ⟨rfl, hopen, _, ⟨gap, gap', rfl, hgap, hgap'⟩, ?_⟩
    simp only [List.append_assoc, List.cons_append, List.nil_append]
  · intro h
    obtain ⟨rfl, hopen, _, ⟨gap, gap', rfl, hgap, hgap'⟩, rfl⟩ := h
    have hcolon : (gap ++ ':' :: (gap' ++ '\x7b' :: rest')).dropWhile isBlank
        = ':' :: (gap' ++ '\x7b' :: rest') := dropWhile_append_cons hgap (by decide) _
    have hbrace : (gap' ++ '\x7b' :: rest').dropWhile isBlank = '\x7b' :: rest' :=
      dropWhile_append_cons hgap' (by decide) _
    simp only [List.append_assoc, List.cons_append, List.nil_append]
    exact ⟨(), hopen, isServer, _, rfl, _, hcolon, _, hbrace, ⟨rfl, rfl⟩, rfl⟩

/-! ## 2. Every header is found -/

/-- Neither of the two words begins inside a header. -/
theorem startsApart_sectionHeader? :
    Text.StartsApart (fun c => c == 's' || c == 'c') sectionHeader? := by
  have hblank {c : Char} (hc : isBlank c) : ¬ (c == 's' || c == 'c') := by
    rw [Bool.or_eq_true, beq_iff_eq, beq_iff_eq]
    rintro (rfl | rfl) <;> revert hc <;> decide
  intro before s value rest h
  obtain ⟨isServer, t⟩ := value
  obtain ⟨rfl, -, _, ⟨gap, gap', rfl, hgap, hgap'⟩, rfl⟩ := sectionHeader?_eq_some.mp h
  have htail {w : Text} (hw : w.all fun c => !(c == 's' || c == 'c')) :
      ∀ c ∈ w ++ (gap ++ ':' :: (gap' ++ ['\x7b'])), ¬ (c == 's' || c == 'c') := by
    intro c hc
    simp only [List.mem_append, List.mem_cons, List.not_mem_nil, or_false] at hc
    obtain hc | hc | rfl | hc | rfl := hc
    · exact Bool.eq_false_iff.mp ((Bool.not_eq_true' _).mp (List.all_eq_true.mp hw c hc))
    · exact hblank (hgap c hc)
    · decide
    · exact hblank (hgap' c hc)
    · decide
  -- behind its first letter neither word has an s or a c
  cases isServer with
  | true => exact ⟨'s', _, rfl, rfl, htail (w := "erver".toList) (by decide)⟩
  | false => exact ⟨'c', _, rfl, rfl, htail (w := "lient".toList) (by decide)⟩

namespace SectionHeader

variable {isServer : Bool} {content : Text}

theorem reads (h : SectionHeader isServer content) :
    Text.Reads sectionHeader? content h.before ((isServer, h.rest), h.rest) :=
  ⟨_, h.content_eq, sectionHeader?_eq_some.mpr ⟨rfl, h.opensWord, h.opening, h.isOpening, rfl⟩⟩

/-- A header is the first of its side if none is read at the places before it. -/
theorem isFirst_of_forall_place (h : SectionHeader isServer content)
    (hplace : ∀ n < h.before.length,
      (sectionHeader? (content.take n).getLast? (content.drop n)).all (·.1.1 != isServer)) :
    h.IsFirst := by
  intro h'
  apply Nat.le_of_not_lt
  intro hlt
  have hnone := hplace h'.before.length hlt
  rw [h'.reads.read_take_drop.2, Option.all_some, bne_self_eq_false] at hnone
  cases hnone

theorem exists_of_reads {before rest rest' : Text}
    (h : Text.Reads sectionHeader? content before ((isServer, rest), rest')) :
    ∃ header : SectionHeader isServer content, header.before = before ∧ header.rest = rest := by
  obtain ⟨_, hcontent, hread⟩ := h
  obtain ⟨rfl, hopen, opening, hopening, rfl⟩ := sectionHeader?_eq_some.mp hread
  exact ⟨⟨before, opening, rest', hcontent, hopen, hopening⟩, rfl, rfl⟩

/-- The match in which the pass over the text finds the header. -/
def toMatch (h : SectionHeader isServer content) : Text.Match (Bool × Text) :=
  ⟨h.before.length, (isServer, h.rest)⟩

theorem toMatch_mem (h : SectionHeader isServer content) :
    h.toMatch ∈ Text.matchesOf sectionHeader? content :=
  (Text.mem_matchesOf_iff_reads startsApart_sectionHeader?).mpr ⟨h.before, h.rest, rfl, h.reads⟩

theorem exists_toMatch_eq {m : Text.Match (Bool × Text)}
    (hm : m ∈ Text.matchesOf sectionHeader? content) (hside : m.value.1 = isServer) :
    ∃ header : SectionHeader isServer content, header.toMatch = m := by
  obtain ⟨before, rest, hoffset, hreads⟩ :=
    (Text.mem_matchesOf_iff_reads startsApart_sectionHeader?).mp hm
  obtain ⟨offset, side, text⟩ := m
  obtain rfl : side = isServer := hside
  obtain rfl : offset = before.length := hoffset
  obtain ⟨header, rfl, rfl⟩ := exists_of_reads hreads
  exact ⟨header, rfl⟩

end SectionHeader

/-! ## 3. The pass over the headers -/

namespace EnvSchema

/-- The keys of one side. -/
def side (schema : EnvSchema) (isServer : Bool) : List Text :=
  if isServer then schema.server else schema.client

theorem side_addSection (schema : EnvSchema) (isServer isServer' : Bool) (rest : Text) :
    (schema.addSection isServer' rest).side isServer
      = if isServer' = isServer ∧ schema.side isServer = [] then blockKeys rest
        else schema.side isServer := by
  cases isServer <;> cases isServer' <;>
    simp only [side, addSection, blockKeys, List.isEmpty_iff, Bool.false_eq_true, if_false, if_true,
      true_and, false_and, reduceCtorEq] <;>
    split <;> rfl

end EnvSchema

/-- The match is a header of the side whose block has a key. -/
def isKeyed (isServer : Bool) (m : Text.Match (Bool × Text)) : Bool :=
  m.value.1 == isServer && !(blockKeys m.value.2).isEmpty

/-- A side that has keys is left alone, and one without gets those of the first block with a key. -/
theorem side_foldl_addSection (isServer : Bool) (ms : List (Text.Match (Bool × Text)))
    (schema : EnvSchema) :
    (ms.foldl (fun schema m => schema.addSection m.value.1 m.value.2) schema).side isServer
      = if schema.side isServer = [] then
          ((ms.find? (isKeyed isServer)).map fun m => blockKeys m.value.2).getD []
        else schema.side isServer := by
  induction ms generalizing schema with
  | nil =>
    rw [List.foldl_nil, List.find?_nil]
    split
    next h => exact h
    next => rfl
  | cons m ms ih =>
    rw [List.foldl_cons, ih, EnvSchema.side_addSection]
    by_cases hside : schema.side isServer = []
    · rw [if_pos hside]
      by_cases hkeyed : isKeyed isServer m
      · obtain ⟨hserver, hkeys⟩ := (Bool.and_eq_true _ _).mp hkeyed
        have hne : blockKeys m.value.2 ≠ [] := by simpa using hkeys
        rw [if_pos (And.intro (beq_iff_eq.mp hserver) hside), if_neg hne,
          List.find?_cons_of_pos hkeyed]
        rfl
      · -- a block without keys leaves the side as empty as a header of the other side does
        have hempty : (if m.value.1 = isServer ∧ schema.side isServer = [] then
            blockKeys m.value.2 else schema.side isServer) = [] := by
          split
          next h => simpa [isKeyed, h.1] using hkeyed
          next => exact hside
        rw [hempty, if_pos rfl, List.find?_cons_of_neg hkeyed]
    · have hkept : ¬ (m.value.1 = isServer ∧ schema.side isServer = []) := fun h => hside h.2
      rw [if_neg hkept, if_neg hside, if_neg hside]

theorem side_parse (isServer : Bool) (content : Text) :
    (EnvSchema.parse content).side isServer
      = (((Text.matchesOf sectionHeader? content).find? (isKeyed isServer)).map
          fun m => blockKeys m.value.2).getD [] := by
  have hempty : (⟨[], []⟩ : EnvSchema).side isServer = [] := by cases isServer <;> rfl
  rw [EnvSchema.parse, side_foldl_addSection, if_pos hempty]

/-! ## 4. Which section counts -/

section

variable {isServer : Bool} {content : Text}

theorem SectionHeader.isKeyed_toMatch (h : SectionHeader isServer content) :
    isKeyed isServer h.toMatch ↔ h.keys ≠ [] := by
  simp [isKeyed, SectionHeader.toMatch, SectionHeader.keys]

theorem exists_of_isKeyed {m : Text.Match (Bool × Text)}
    (hm : m ∈ Text.matchesOf sectionHeader? content) (hkeyed : isKeyed isServer m) :
    ∃ h : SectionHeader isServer content, h.toMatch = m ∧ h.keys ≠ [] := by
  have hside : m.value.1 = isServer := beq_iff_eq.mp (Bool.and_eq_true_iff.mp hkeyed).1
  obtain ⟨h, rfl⟩ := SectionHeader.exists_toMatch_eq hm hside
  exact ⟨h, rfl, h.isKeyed_toMatch.mp hkeyed⟩

/-- What holds of every header with a key holds of every match that is one. -/
theorem forall_isKeyed_iff {p : Text.Match (Bool × Text) → Prop} :
    (∀ m ∈ Text.matchesOf sectionHeader? content, isKeyed isServer m → p m)
      ↔ ∀ h : SectionHeader isServer content, h.keys ≠ [] → p h.toMatch := by
  constructor
  · intro hall h hkeys
    exact hall _ h.toMatch_mem (h.isKeyed_toMatch.mpr hkeys)
  · intro hall m hm hkeyed
    obtain ⟨h, rfl, hkeys⟩ := exists_of_isKeyed hm hkeyed
    exact hall h hkeys

namespace EnvSchema

/-- The first section with a key gives the keys. -/
theorem side_parse_eq_keys (h : SectionHeader isServer content) (hkeys : h.keys ≠ [])
    (hfirst : ∀ h' : SectionHeader isServer content, h'.keys ≠ [] →
      h.before.length ≤ h'.before.length) :
    (parse content).side isServer = h.keys := by
  have hfind : (Text.matchesOf sectionHeader? content).find? (isKeyed isServer) = some h.toMatch :=
    Text.find?_matchesOf_eq_some h.toMatch_mem (h.isKeyed_toMatch.mpr hkeys)
      (forall_isKeyed_iff.mpr hfirst)
  rw [side_parse, hfind]
  rfl

/-- A side is empty just if no section has a key. -/
theorem side_parse_eq_nil_iff :
    (parse content).side isServer = []
      ↔ ∀ h : SectionHeader isServer content, h.keys = [] := by
  rw [side_parse]
  cases hfind : (Text.matchesOf sectionHeader? content).find? (isKeyed isServer) with
  | none =>
    have hnone : ∀ h : SectionHeader isServer content, h.keys ≠ [] → False :=
      forall_isKeyed_iff.mp (List.find?_eq_none.mp hfind)
    exact iff_of_true rfl fun h => not_not.mp (hnone h)
  | some m =>
    obtain ⟨h, rfl, hkeys⟩ :=
      exists_of_isKeyed (List.mem_of_find?_eq_some hfind) (List.find?_some hfind)
    exact iff_of_false hkeys fun hall => hkeys (hall h)

end EnvSchema

/-! ## 5. Only the first section counts -/

/-- The keys of a side are those of its first section, whatever that is. -/
def FirstSectionCounts (isServer : Bool) (content : Text) : Prop :=
  (∀ h : SectionHeader isServer content, h.IsFirst →
      (EnvSchema.parse content).side isServer = h.keys)
    ∧ (IsEmpty (SectionHeader isServer content) → (EnvSchema.parse content).side isServer = [])

/-- The keys of a header are those of the object that its brace opens, and none if nothing closes
it.  The first section with a key gives the keys of its side, so that the first section of all
counts if it has a key or if none has. -/
theorem firstSectionCounts_iff (isServer : Bool) (content : Text) :
    (FirstSectionCounts isServer content
      ↔ ∀ h : SectionHeader isServer content, h.IsFirst → h.keys = [] →
          ∀ h' : SectionHeader isServer content, h'.keys = [])
      ∧ ((EnvSchema.parse content).side isServer = []
          ↔ ∀ h : SectionHeader isServer content, h.keys = [])
      ∧ (∀ h : SectionHeader isServer content, h.keys ≠ [] →
          (∀ h' : SectionHeader isServer content, h'.keys ≠ [] →
            h.before.length ≤ h'.before.length) →
          (EnvSchema.parse content).side isServer = h.keys)
      ∧ ∀ h : SectionHeader isServer content,
          (∀ body, EndsBody 0 h.rest body → h.keys = topLevelKeys body)
            ∧ ((∀ body, ¬ EndsBody 0 h.rest body) → h.keys = []) := by
  refine ⟨⟨?_, ?_⟩, EnvSchema.side_parse_eq_nil_iff, EnvSchema.side_parse_eq_keys, fun h =>
    ⟨fun _ => blockKeys_of_endsBody, blockKeys_of_not_endsBody⟩⟩
  · intro hcounts h hfirst hkeys
    exact EnvSchema.side_parse_eq_nil_iff.mp ((hcounts.1 h hfirst).trans hkeys)
  · intro hempty
    refine ⟨fun h hfirst => ?_, fun hnone => ?_⟩
    · by_cases hkeys : h.keys = []
      · rw [hkeys]
        exact EnvSchema.side_parse_eq_nil_iff.mpr (hempty h hfirst hkeys)
      · exact EnvSchema.side_parse_eq_keys h hkeys fun h' _ => hfirst h'
    · exact EnvSchema.side_parse_eq_nil_iff.mpr fun h => hnone.elim h

end

/-- An empty first section lets the second one count. -/
theorem not_firstSectionCounts_empty :
    ¬ FirstSectionCounts true "server: \x7b\x7d, server: \x7b A: 1 \x7d".toList := by
  intro hcounts
  let first : SectionHeader true "server: \x7b\x7d, server: \x7b A: 1 \x7d".toList :=
    ⟨[], "server: \x7b".toList, "\x7d, server: \x7b A: 1 \x7d".toList, rfl, rfl,
      [], [' '], rfl, List.forall_mem_nil _, List.forall_mem_singleton.mpr rfl⟩
  have hkeys : (EnvSchema.parse "server: \x7b\x7d, server: \x7b A: 1 \x7d".toList).side true
      = first.keys := hcounts.1 first fun _ => Nat.zero_le _
  revert hkeys
  decide

end EnvAudit
