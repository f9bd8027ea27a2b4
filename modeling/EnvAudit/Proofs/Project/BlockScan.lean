import EnvAudit.Proofs.Lists
import EnvAudit.Proofs.Project.FirstSection
import EnvAudit.Proofs.Text.ByteTable

/-!
# The scan for the brace that closes a block

A block can also be had from the byte offset of its brace: a scan counts braces up and down from
there, and two byte offsets cut the block out.  Each step may fail: a brace may close where none is
open, and an offset may lie inside a character.  At a brace that opens none does, and the block ends
at the first brace up to which as many close as open (`blockAt?_reads_blocks`).  The reader of a
schema asks for blocks at such braces alone.
-/

namespace EnvAudit

/-! ## 1. The scan -/

/-- How a scan ends: at a closing brace that many bytes behind its start, at the end of the text, or
at a brace that closes where none is open. -/
inductive BraceScan
  | closed (offset : Nat)
  | unclosed
  | underflow
deriving DecidableEq

/-- Counts open braces up and down; `depth` are open and `offset` bytes have gone by. -/
def scanBraces (depth offset : Nat) : Text → BraceScan
  | [] => .unclosed
  | c :: s =>
    if c = '\x7b' then scanBraces (depth + 1) (offset + c.utf8Size) s
    else if c = '\x7d' then
      if depth = 0 then .underflow
      else if depth = 1 then .closed offset
      else scanBraces (depth - 1) (offset + c.utf8Size) s
    else scanBraces depth (offset + c.utf8Size) s

/-- The block behind the brace at a byte offset, if the scan finds its end; `none` if a step of the
scan or of the cut fails. -/
def blockAt? (s : Text) (start : Nat) : Option (Option Text) := do
  let (_, after) ← Text.splitBytes? start s
  match scanBraces 0 0 after with
  | .closed offset => return some (← Text.byteSlice? (start + 1) (start + offset) s)
  | .unclosed => return none
  | .underflow => none

/-- With a brace open no step of the scan fails, and it stops where the body of the block ends. -/
theorem scanBraces_succ (depth offset : Nat) (s : Text) :
    scanBraces (depth + 1) offset s
      = ((braceBody? (depth + 1) s).map fun body =>
          .closed (offset + Text.byteLength body)).getD .unclosed := by
  induction s generalizing depth offset with
  | nil => rfl
  | cons c s ih =>
    -- a character that does not end the body is one of it, and the scan goes on behind it
    have hcons (depth' : Nat) :
        scanBraces (depth' + 1) (offset + c.utf8Size) s
          = (((braceBody? (depth' + 1) s).map (c :: ·)).map fun body =>
              .closed (offset + Text.byteLength body)).getD .unclosed := by
      rw [ih, Option.map_map]
      simp only [Function.comp_def, Text.byteLength_cons, Nat.add_assoc]
    rw [scanBraces, braceBody?]
    split
    next => exact hcons (depth + 1)
    next =>
      split
      next =>
        cases depth with
        | zero => rfl
        | succ depth => exact hcons depth
      next => exact hcons depth

theorem scanBraces_ne_underflow (rest : Text) :
    scanBraces 0 0 ('\x7b' :: rest) ≠ .underflow := by
  have hscan : scanBraces 0 0 ('\x7b' :: rest) = scanBraces 1 1 rest := rfl
  rw [hscan, scanBraces_succ]
  cases braceBody? 1 rest with
  | none => exact fun h => nomatch h
  | some body => exact fun h => nomatch h

theorem blockAt?_append (before rest : Text) :
    blockAt? (before ++ '\x7b' :: rest) (Text.byteLength before) = some (braceBody? 1 rest) := by
  have hscan : scanBraces 0 0 ('\x7b' :: rest) = scanBraces 1 1 rest := rfl
  rw [blockAt?, Text.splitBytes?_append]
  simp only [Option.bind_eq_bind, Option.bind_some, hscan, scanBraces_succ 0]
  cases hbody : braceBody? 1 rest with
  | none => rfl
  | some body =>
    obtain ⟨after, rfl, -⟩ := braceBody?_eq_some.mp hbody
    -- the cut begins behind the brace and ends where the scan has stopped
    have hslice := Text.byteSlice?_append (before ++ ['\x7b']) body ('\x7d' :: after)
    have hstart : Text.byteLength (before ++ ['\x7b']) = Text.byteLength before + 1 :=
      Text.byteLength_append before ['\x7b']
    have hstop : Text.byteLength (before ++ ['\x7b'] ++ body)
        = Text.byteLength before + (1 + Text.byteLength body) := by
      rw [Text.byteLength_append, hstart, Nat.add_assoc]
    rw [hstart, hstop, List.append_assoc, List.singleton_append] at hslice
    simp only [Option.map_some, Option.getD_some, hslice]
    rfl

/-- At a closing brace the scan has nothing to take away from, and inside a character it cannot
begin. -/
example : blockAt? "é\x7b\x7d".toList 3 = none ∧ blockAt? "é\x7b\x7d".toList 1 = none
    ∧ blockAt? "é\x7b\x7d".toList 2 = some (some []) := by decide

/-! ## 2. Where a block ends -/

/-- From the brace in front of the body to the one behind it as many braces close as open. -/
def ClosesLevel (body : Text) : Prop :=
  ('\x7b' :: (body ++ ['\x7d'])).count '\x7d' = ('\x7b' :: (body ++ ['\x7d'])).count '\x7b'

/-- The body of the block that is open at the front of the text: it ends at the first brace that
closes the level. -/
structure IsBlock (rest body : Text) : Prop where
  ends : ∃ after, rest = body ++ '\x7d' :: after
  closesLevel : ClosesLevel body
  first : ∀ body' after', rest = body' ++ '\x7d' :: after' → ClosesLevel body' →
    body.length ≤ body'.length

theorem closesLevel_iff {body : Text} :
    ClosesLevel body ↔ body.count '\x7d' = body.count '\x7b' := by
  simp [ClosesLevel]

theorem openAfter?_count {depth depth' : Nat} {s : Text}
    (h : openAfter? isLeftBrace isRightBrace depth s = some depth') :
    depth' + s.count '\x7d' = depth + s.count '\x7b' := by
  induction s generalizing depth with
  | nil =>
    cases h
    rfl
  | cons c s ih =>
    rw [openAfter?] at h
    rw [List.count_cons, List.count_cons]
    by_cases hleft : c = '\x7b'
    · subst hleft
      have hcount := ih h
      simp only [beq_self_eq_true, if_true, Char.reduceBEq, Bool.false_eq_true, if_false]
      omega
    · rw [if_neg (by simpa [isLeftBrace] using hleft)] at h
      by_cases hright : c = '\x7d'
      · subst hright
        rw [if_pos (by decide)] at h
        split at h
        next => cases h
        next hdepth =>
          have hcount := ih h
          simp only [beq_self_eq_true, if_true, Char.reduceBEq, Bool.false_eq_true, if_false]
          omega
      · rw [if_neg (by simpa [isRightBrace] using hright)] at h
        have hcount := ih h
        simp only [beq_iff_eq, hleft, hright, if_false]
        omega

/-- A count that fails has met a brace that closes one more than are open. -/
theorem exists_of_openAfter?_eq_none {depth : Nat} {s : Text}
    (h : openAfter? isLeftBrace isRightBrace depth s = none) :
    ∃ front back, s = front ++ '\x7d' :: back
      ∧ openAfter? isLeftBrace isRightBrace depth front = some 0 := by
  induction s generalizing depth with
  | nil => cases h
  | cons c s ih =>
    have hcons {depth' : Nat} (hs : openAfter? isLeftBrace isRightBrace depth' s = none)
        (hstep : ∀ t, openAfter? isLeftBrace isRightBrace depth (c :: t)
          = openAfter? isLeftBrace isRightBrace depth' t) :
        ∃ front back, c :: s = front ++ '\x7d' :: back
          ∧ openAfter? isLeftBrace isRightBrace depth front = some 0 := by
      obtain ⟨front, back, rfl, hfront⟩ := ih hs
      exact ⟨c :: front, back, rfl, (hstep front).trans hfront⟩
    rw [openAfter?] at h
    split at h
    next hleft => exact hcons h fun t => by rw [openAfter?, if_pos hleft]
    next hleft =>
      split at h
      next hright =>
        split at h
        next hzero =>
          obtain rfl : c = '\x7d' := beq_iff_eq.mp hright
          exact ⟨[], s, rfl, congrArg some hzero⟩
        next hzero =>
          exact hcons h fun t => by rw [openAfter?, if_neg hleft, if_pos hright, if_neg hzero]
      next hright =>
        exact hcons h fun t => by rw [openAfter?, if_neg hleft, if_neg hright]

/-- Where some brace closes the level, the body of a block ends, there or before. -/
theorem exists_endsBody_of_closesLevel {rest body after : Text}
    (hrest : rest = body ++ '\x7d' :: after) (hlevel : ClosesLevel body) :
    ∃ body', EndsBody 0 rest body' ∧ body'.length ≤ body.length
      ∧ (body'.length = body.length → body' = body) := by
  cases hopen : openAfter? isLeftBrace isRightBrace 0 body with
  | some depth =>
    have hcount := openAfter?_count hopen
    rw [closesLevel_iff] at hlevel
    obtain rfl : depth = 0 := by omega
    exact ⟨body, ⟨after, hrest, hopen⟩, Nat.le_refl _, fun _ => rfl⟩
  | none =>
    obtain ⟨front, back, rfl, hfront⟩ := exists_of_openAfter?_eq_none hopen
    have hshorter : front.length < (front ++ '\x7d' :: back).length := by simp
    refine ⟨front, ⟨back ++ '\x7d' :: after, ?_, hfront⟩, Nat.le_of_lt hshorter, fun heq => ?_⟩
    · rw [hrest, List.append_assoc, List.cons_append]
    · omega

theorem EndsBody.exists_eq_append {rest body : Text} (h : EndsBody 0 rest body) :
    ∃ after, rest = body ++ '\x7d' :: after := by
  obtain ⟨after, hrest, -⟩ := h
  exact ⟨after, hrest⟩

theorem EndsBody.closesLevel {rest body : Text} (h : EndsBody 0 rest body) :
    ClosesLevel body := by
  obtain ⟨_, -, hopen⟩ := h
  have hcount := openAfter?_count hopen
  rw [closesLevel_iff]
  omega

theorem EndsBody.unique {rest body body' : Text} (h : EndsBody 0 rest body)
    (h' : EndsBody 0 rest body') : body = body' :=
  Option.some.inj ((braceBody?_eq_some.mpr h).symm.trans (braceBody?_eq_some.mpr h'))

theorem braceBody?_eq_some_iff_isBlock {rest body : Text} :
    braceBody? 1 rest = some body ↔ IsBlock rest body := by
  rw [braceBody?_eq_some]
  constructor
  · intro h
    refine ⟨h.exists_eq_append, h.closesLevel, fun body' after' hrest' hlevel' => ?_⟩
    obtain ⟨first, hfirst, hlength, -⟩ := exists_endsBody_of_closesLevel hrest' hlevel'
    rwa [h.unique hfirst]
  · intro h
    obtain ⟨after, hrest⟩ := h.ends
    obtain ⟨first, hfirst, hlength, heq⟩ := exists_endsBody_of_closesLevel hrest h.closesLevel
    obtain ⟨after', hrest'⟩ := hfirst.exists_eq_append
    have hle := h.first first after' hrest' hfirst.closesLevel
    rwa [← heq (Nat.le_antisymm hlength hle)]

theorem braceBody?_eq_none_iff {rest : Text} :
    braceBody? 1 rest = none
      ↔ ∀ body after, rest = body ++ '\x7d' :: after → ¬ ClosesLevel body := by
  constructor
  · intro h body after hrest hlevel
    obtain ⟨first, hfirst, -⟩ := exists_endsBody_of_closesLevel hrest hlevel
    rw [braceBody?_eq_some.mpr hfirst] at h
    cases h
  · intro h
    refine Option.eq_none_iff_forall_ne_some.mpr fun body hbody => ?_
    have hends := braceBody?_eq_some.mp hbody
    obtain ⟨after, hrest⟩ := hends.exists_eq_append
    exact h body after hrest hends.closesLevel

/-! ## 3. The blocks of a schema -/

/-- The keys that a section brings go to its side. -/
def EnvSchema.withSide (schema : EnvSchema) (isServer : Bool) (keys : List Text) : EnvSchema :=
  if isServer then ⟨keys, schema.client⟩ else ⟨schema.server, keys⟩

/-- The byte offset of the brace that ends a header, one before that of the text behind it. -/
def braceOffset (content : Text) (m : Text.Match (Bool × Text)) : Nat :=
  Text.byteLength content - Text.byteLength m.value.2 - 1

/-- Adds a section with the block that the scan finds at its brace; `none` if the scan fails. -/
def EnvSchema.scanSection? (content : Text) (schema : EnvSchema) (m : Text.Match (Bool × Text)) :
    Option EnvSchema := do
  if schema.side m.value.1 = [] then
    let block ← blockAt? content (braceOffset content m)
    return schema.withSide m.value.1 ((block.map topLevelKeys).getD [])
  else return schema

/-- The names that a schema file declares, each block found by a scan; `none` if a scan fails. -/
def EnvSchema.parseByScan? (content : Text) : Option EnvSchema :=
  (Text.matchesOf sectionHeader? content).foldlM (EnvSchema.scanSection? content) ⟨[], []⟩

/-- A header ends with the brace that opens its block. -/
theorem exists_eq_append_brace {content : Text} {m : Text.Match (Bool × Text)}
    (hm : m ∈ Text.matchesOf sectionHeader? content) :
    ∃ before, content = before ++ '\x7b' :: m.value.2 := by
  obtain ⟨header, hheader⟩ := SectionHeader.exists_toMatch_eq hm rfl
  obtain ⟨gap, gap', hopening, -⟩ := header.isOpening
  have hrest : header.rest = m.value.2 := congrArg (fun m => m.value.2) hheader
  refine ⟨header.before ++ ((if m.value.1 then "server" else "client").toList
    ++ (gap ++ ':' :: gap')), ?_⟩
  have hcontent := header.content_eq
  rw [hopening, hrest] at hcontent
  simpa only [List.append_assoc, List.cons_append, List.nil_append] using hcontent

theorem braceOffset_eq {before content : Text} {m : Text.Match (Bool × Text)}
    (hcontent : content = before ++ '\x7b' :: m.value.2) :
    braceOffset content m = Text.byteLength before := by
  have hbrace : Text.byteLength ('\x7b' :: m.value.2) = 1 + Text.byteLength m.value.2 := rfl
  rw [braceOffset, hcontent, Text.byteLength_append, hbrace]
  omega

theorem EnvSchema.scanSection?_eq {content : Text} (schema : EnvSchema)
    {m : Text.Match (Bool × Text)} (hm : m ∈ Text.matchesOf sectionHeader? content) :
    scanSection? content schema m = some (schema.addSection m.value.1 m.value.2) := by
  obtain ⟨before, hcontent⟩ := exists_eq_append_brace hm
  have hblock := blockAt?_append before m.value.2
  rw [← hcontent, ← braceOffset_eq hcontent] at hblock
  rw [scanSection?, hblock, addSection]
  cases m.value.1 <;>
    simp only [side, withSide, List.isEmpty_iff, Option.bind_eq_bind, Option.bind_some,
      Option.pure_def, Bool.false_eq_true, if_false, if_true] <;>
    split <;> rfl

theorem EnvSchema.parseByScan?_eq (content : Text) :
    parseByScan? content = some (parse content) :=
  foldlM_eq_some (fun schema _ hm => scanSection?_eq schema hm) _

/-! ## 4. Blocks at offsets -/

/-- At every brace that opens the scan gives what the reader of bodies gives and no step of it
fails: it closes no brace where none is open, and cuts at ends of characters.  The body ends at the
first brace up to which as many close as open, and there is none if there is no such brace.  All
headers of a schema end with the brace at which the scan is made, so that none fails there. -/
theorem blockAt?_reads_blocks (content : Text) :
    (∀ before rest, content = before ++ '\x7b' :: rest →
        scanBraces 0 0 ('\x7b' :: rest) ≠ .underflow
          ∧ blockAt? content (Text.byteLength before) = some (braceBody? 1 rest)
          ∧ (∀ body, braceBody? 1 rest = some body ↔ IsBlock rest body)
          ∧ (braceBody? 1 rest = none
            ↔ ∀ body after, rest = body ++ '\x7d' :: after → ¬ ClosesLevel body))
      ∧ (∀ m ∈ Text.matchesOf sectionHeader? content,
          ∃ before, content = before ++ '\x7b' :: m.value.2
            ∧ braceOffset content m = Text.byteLength before)
      ∧ EnvSchema.parseByScan? content = some (EnvSchema.parse content) := by
  refine ⟨fun before rest hcontent => ?_, fun m hm => ?_, EnvSchema.parseByScan?_eq content⟩
  · rw [hcontent]
    exact ⟨scanBraces_ne_underflow rest, blockAt?_append before rest,
      fun body => braceBody?_eq_some_iff_isBlock, braceBody?_eq_none_iff⟩
  · obtain ⟨before, hcontent⟩ := exists_eq_append_brace hm
    exact ⟨before, hcontent, braceOffset_eq hcontent⟩

end EnvAudit
