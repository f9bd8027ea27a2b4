import EnvAudit.Proofs.Text.Returns
import EnvAudit.Text.Scan

/-!
# Readers that pass what is put into a text

A reader passes what is put into a text if it succeeds on the same texts as before and leaves what
it left, with what was put in.  Words, characters and runs of a class pass whatever begins with a
stop, a character that they do not take (`Inserts.passes_after?`, `Inserts.passes_afterOne?`,
`Inserts.passes_afterRun?`), and so does whatever is put together from such readers with
`Passes.bind` and `Passes.skip`.  What they say about a text does not depend on what is put in
(`Overlooks`).  For carriage returns at line ends the searches therefore find the same at the same
places: `occurs_withReturn`, `firstMatch?_withReturn` and `matchesOf_withReturn` on a line,
`occurs_crlf` in a text of many lines.
-/

namespace EnvAudit.Text

/-! ## 1. Putting text into a text -/

/-- A way to put more into a text.  At the end of the text it begins with a stop; elsewhere it goes
before a stop and begins with one. -/
structure Inserts (stops : Text) (f : Text → Text) : Prop where
  nil : f [] = [] ∨ ∃ d t, d ∈ stops ∧ f [] = d :: t
  cons : ∀ c s, f (c :: s) = c :: f s ∨ c ∈ stops ∧ ∃ d t, d ∈ stops ∧ f (c :: s) = d :: t

namespace Inserts

variable {stops : Text} {f : Text → Text} (hf : Inserts stops f) {p : Char → Bool}
include hf

theorem takeWhile_eq (hp : ∀ c ∈ stops, p c = false) (s : Text) :
    (f s).takeWhile p = s.takeWhile p := by
  have hstop : ∀ c ∈ stops, ¬ p c := fun c hc => Bool.eq_false_iff.mp (hp c hc)
  induction s with
  | nil =>
    rcases hf.nil with h | ⟨d, t, hd, h⟩
    · rw [h]
    · rw [h, List.takeWhile_cons_of_neg (hstop d hd), List.takeWhile_nil]
  | cons c s ih =>
    rcases hf.cons c s with h | ⟨hc, d, t, hd, h⟩
    · rw [h, List.takeWhile_cons, List.takeWhile_cons, ih]
    · rw [h, List.takeWhile_cons_of_neg (hstop d hd), List.takeWhile_cons_of_neg (hstop c hc)]

theorem dropWhile_eq (hp : ∀ c ∈ stops, p c = false) (s : Text) :
    (f s).dropWhile p = f (s.dropWhile p) := by
  have hstop : ∀ c ∈ stops, ¬ p c := fun c hc => Bool.eq_false_iff.mp (hp c hc)
  induction s with
  | nil =>
    rcases hf.nil with h | ⟨d, t, hd, h⟩
    · rw [h, List.dropWhile_nil, h]
    · rw [h, List.dropWhile_cons_of_neg (hstop d hd), List.dropWhile_nil, h]
  | cons c s ih =>
    rcases hf.cons c s with h | ⟨hc, d, t, hd, h⟩
    · by_cases hpc : p c
      · rw [h, List.dropWhile_cons_of_pos hpc, List.dropWhile_cons_of_pos hpc, ih]
      · rw [h, List.dropWhile_cons_of_neg hpc, List.dropWhile_cons_of_neg hpc, h]
    · rw [h, List.dropWhile_cons_of_neg (hstop d hd), List.dropWhile_cons_of_neg (hstop c hc), h]

end Inserts

/-- What follows a text begins with a stop. -/
theorem inserts_append {stops : Text} {d : Char} (hd : d ∈ stops) (t : Text) :
    Inserts stops (· ++ d :: t) where
  nil := Or.inr ⟨d, t, hd, rfl⟩
  cons _ _ := Or.inl rfl

/-- A way to put carriage returns into a text: before line feeds, and at the end. -/
structure AddsReturns (f : Text → Text) : Prop where
  nil : f [] = [] ∨ f [] = ['\r']
  cons : ∀ c s, f (c :: s) = c :: f s ∨ c = '\n' ∧ f (c :: s) = '\r' :: '\n' :: f s

theorem addsReturns_withReturn : AddsReturns withReturn where
  nil := Or.inr rfl
  cons _ _ := Or.inl rfl

theorem addsReturns_crlf : AddsReturns crlf where
  nil := Or.inl rfl
  cons c s := by
    by_cases hc : c = '\n'
    · subst hc
      exact Or.inr ⟨rfl, rfl⟩
    · exact Or.inl (crlf_cons hc s)

theorem AddsReturns.inserts {f : Text → Text} (hf : AddsReturns f) : Inserts ['\r', '\n'] f where
  nil := hf.nil.imp_right fun h => ⟨'\r', [], List.mem_cons_self, h⟩
  cons c s := by
    refine (hf.cons c s).imp_right ?_
    rintro ⟨rfl, h⟩
    exact ⟨by decide, '\r', '\n' :: f s, by decide, h⟩

/-- The class has neither of the characters of a line end. -/
def AvoidsEnds (p : Char → Bool) : Prop := p '\r' = false ∧ p '\n' = false

instance (p : Char → Bool) : Decidable (AvoidsEnds p) :=
  inferInstanceAs (Decidable (p '\r' = false ∧ p '\n' = false))

theorem AvoidsEnds.forall_mem {p : Char → Bool} (h : AvoidsEnds p) :
    ∀ c ∈ ['\r', '\n'], p c = false :=
  List.forall_mem_cons.mpr ⟨h.1, List.forall_mem_singleton.mpr h.2⟩

/-- The word has neither of the characters of a line end. -/
def IsOneLine (w : Text) : Prop := '\r' ∉ w ∧ '\n' ∉ w

instance (w : Text) : Decidable (IsOneLine w) :=
  inferInstanceAs (Decidable ('\r' ∉ w ∧ '\n' ∉ w))

theorem IsOneLine.forall_mem {w : Text} (h : IsOneLine w) : ∀ c ∈ ['\r', '\n'], c ∉ w :=
  List.forall_mem_cons.mpr ⟨h.1, List.forall_mem_singleton.mpr h.2⟩

section

variable {f : Text → Text} (hf : AddsReturns f) {p : Char → Bool}
include hf

theorem takeWhile_of_avoidsEnds (hp : AvoidsEnds p) (s : Text) :
    (f s).takeWhile p = s.takeWhile p :=
  hf.inserts.takeWhile_eq hp.forall_mem s

theorem dropWhile_of_avoidsEnds (hp : AvoidsEnds p) (s : Text) :
    (f s).dropWhile p = f (s.dropWhile p) :=
  hf.inserts.dropWhile_eq hp.forall_mem s

/-- A run that goes over line ends leaves the same, unless it goes to the end of the text. -/
theorem dropWhile_skips (hr : p '\r') (hn : p '\n') (s : Text) :
    (f s).dropWhile p = f (s.dropWhile p)
      ∨ (f s).dropWhile p = [] ∧ s.dropWhile p = [] := by
  induction s with
  | nil =>
    rcases hf.nil with h | h
    · exact Or.inr (by rw [h]; exact ⟨rfl, rfl⟩)
    · exact Or.inr (by rw [h, List.dropWhile_cons_of_pos hr]; exact ⟨rfl, rfl⟩)
  | cons c s ih =>
    rcases hf.cons c s with h | ⟨rfl, h⟩
    · by_cases hc : p c
      · rwa [h, List.dropWhile_cons_of_pos hc, List.dropWhile_cons_of_pos hc]
      · exact Or.inl (by rw [h, List.dropWhile_cons_of_neg hc, List.dropWhile_cons_of_neg hc, h])
    · rwa [h, List.dropWhile_cons_of_pos hr, List.dropWhile_cons_of_pos hn,
        List.dropWhile_cons_of_pos hn]

end

/-! ## 2. Readers -/

/-- The reader succeeds on a text with returns if it does without them, and leaves the same with
returns. -/
def Passes (f : Text → Text) (read : Text → Option Text) : Prop :=
  ∀ s, read (f s) = (read s).map f

/-- What is asked of a text has the same answer with returns and without them. -/
def Overlooks {β : Type} (f : Text → Text) (ask : Text → β) : Prop := ∀ s, ask (f s) = ask s

namespace Passes

variable {f : Text → Text} {read next : Text → Option Text}

theorem bind (h : Passes f read) (hnext : Passes f next) :
    Passes f fun s => (read s).bind next := by
  intro s
  show (read (f s)).bind next = ((read s).bind next).map f
  rw [h s]
  cases read s with
  | none => rfl
  | some rest => exact hnext rest

/-- What overlooks returns may be asked of the rest that a reader leaves. -/
theorem bind_ask {β : Type} (h : Passes f read) {ask : Text → Option β} (hask : Overlooks f ask) :
    Overlooks f fun s => (read s).bind ask := by
  intro s
  show (read (f s)).bind ask = (read s).bind ask
  rw [h s]
  cases read s with
  | none => rfl
  | some rest => exact hask rest

theorem isSome (h : Passes f read) : Overlooks f fun s => (read s).isSome := by
  intro s
  show (read (f s)).isSome = (read s).isSome
  rw [h s, Option.isSome_map]

theorem getD_eq (h : Passes f read) (s : Text) : (read (f s)).getD (f s) = f ((read s).getD s) := by
  rw [h s]
  cases read s <;> rfl

/-- A reader may pass over a run first that has line ends in it. -/
theorem skip (h : Passes f read) (hf : AddsReturns f) (hnil : read [] = none) {p : Char → Bool}
    (hr : p '\r') (hn : p '\n') : Passes f fun s => read (s.dropWhile p) := by
  intro s
  show read ((f s).dropWhile p) = (read (s.dropWhile p)).map f
  rcases dropWhile_skips hf hr hn s with heq | ⟨hnone, hnone'⟩
  · rw [heq, h]
  · rw [hnone, hnone', hnil]
    rfl

theorem skipBlanks (h : Passes f read) (hf : AddsReturns f) (hnil : read [] = none) :
    Passes f fun s => read (s.dropWhile isBlank) :=
  h.skip hf hnil rfl rfl

end Passes

namespace Inserts

variable {stops : Text} {f : Text → Text} (hf : Inserts stops f)
include hf

/-- A reader of words that goes character by character passes what is put in if no character of a
word is taken for a stop. -/
theorem passes_of_cons {read : Text → Text → Option Text} (same : Char → Char → Prop)
    [DecidableRel same] (hnil : ∀ s, read [] s = some s) (hend : ∀ a w, read (a :: w) [] = none)
    (hcons : ∀ a w c s, read (a :: w) (c :: s) = if same a c then read w s else none)
    {w : Text} (hw : ∀ a ∈ w, ∀ c ∈ stops, ¬ same a c) : Passes f (read w) := by
  intro s
  induction w generalizing s with
  | nil => rw [hnil, hnil, Option.map_some]
  | cons a w ih =>
    rw [List.forall_mem_cons] at hw
    cases s with
    | nil =>
      rcases hf.nil with h | ⟨d, t, hd, h⟩
      · rw [h, hend, Option.map_none]
      · rw [h, hcons, if_neg (hw.1 d hd), hend, Option.map_none]
    | cons c s =>
      rcases hf.cons c s with h | ⟨hc, d, t, hd, h⟩
      · by_cases hsame : same a c
        · rw [h, hcons, hcons, if_pos hsame, if_pos hsame, ih hw.2]
        · rw [h, hcons, hcons, if_neg hsame, if_neg hsame, Option.map_none]
      · -- the reader fails at the stop that is put in as it does at the one after it
        rw [h, hcons, hcons, if_neg (hw.1 d hd), if_neg (hw.1 c hc), Option.map_none]

theorem passes_after? {w : Text} (hw : ∀ c ∈ stops, c ∉ w) : Passes f (after? w) := by
  refine hf.passes_of_cons (· = ·) (fun _ => rfl) (fun _ _ => rfl) (fun _ _ _ _ => rfl) ?_
  rintro a ha _ hc rfl
  exact hw a hc ha

theorem passes_afterSome? {ws : List Text} (hws : ∀ w ∈ ws, ∀ c ∈ stops, c ∉ w) :
    Passes f (afterSome? ws) := by
  intro s
  induction ws with
  | nil => rfl
  | cons w ws ih =>
    rw [List.forall_mem_cons] at hws
    have hfirst := hf.passes_after? hws.1 s
    have hothers := ih hws.2
    unfold afterSome? at hothers ⊢
    rw [List.findSome?_cons, List.findSome?_cons, hfirst, hothers]
    cases after? w s <;> rfl

section

variable {p : Char → Bool} (hp : ∀ c ∈ stops, p c = false)
include hp

theorem passes_afterOne? : Passes f (afterOne? p) := by
  intro s
  have hstop : ∀ c ∈ stops, ¬ p c := fun c hc => Bool.eq_false_iff.mp (hp c hc)
  cases s with
  | nil =>
    rcases hf.nil with h | ⟨d, t, hd, h⟩
    · rw [h]
      rfl
    · rw [h]
      exact if_neg (hstop d hd)
  | cons c s =>
    rcases hf.cons c s with h | ⟨hc, d, t, hd, h⟩
    · rw [h, afterOne?, afterOne?]
      split <;> rfl
    · rw [h, afterOne?, afterOne?, if_neg (hstop d hd), if_neg (hstop c hc), Option.map_none]

theorem passes_afterExactly? (n : Nat) : Passes f (afterExactly? p n) := by
  induction n with
  | zero => exact fun _ => rfl
  | succ n ih => exact (hf.passes_afterOne? hp).bind ih

theorem passes_afterRun? (n : Nat) : Passes f (afterRun? p n) := by
  intro s
  rw [afterRun?, afterRun?, hf.takeWhile_eq hp, hf.dropWhile_eq hp]
  split <;> rfl

end

theorem overlooks_closesWord (hstops : ∀ c ∈ stops, isWordChar c = false) :
    Overlooks f closesWord := by
  intro s
  cases s with
  | nil =>
    rcases hf.nil with h | ⟨d, t, hd, h⟩
    · rw [h]
    · rw [h, closesWord, closesWord, hstops d hd, Bool.not_false]
  | cons c s =>
    rcases hf.cons c s with h | ⟨hc, d, t, hd, h⟩
    · rw [h, closesWord, closesWord]
    · rw [h, closesWord, closesWord, hstops d hd, hstops c hc]

end Inserts

section

variable {f : Text → Text} (hf : AddsReturns f)
include hf

theorem passes_after? {w : Text} (hw : IsOneLine w) : Passes f (after? w) :=
  hf.inserts.passes_after? hw.forall_mem

theorem passes_afterAnyCase? {w : Text} (hw : IsOneLine w) : Passes f (afterAnyCase? w) := by
  refine hf.inserts.passes_of_cons (fun a c => a = c.toLower) (fun _ => rfl) (fun _ _ => rfl)
    (fun _ _ _ _ => rfl) ?_
  -- the characters of a line end have no letter case
  have hlower : ∀ c ∈ ['\r', '\n'], c.toLower = c :=
    List.forall_mem_cons.mpr ⟨rfl, List.forall_mem_singleton.mpr rfl⟩
  intro a ha c hc hsame
  rw [hlower c hc] at hsame
  exact hw.forall_mem c hc (hsame ▸ ha)

theorem passes_afterSome? {ws : List Text} (hws : ∀ w ∈ ws, IsOneLine w) :
    Passes f (afterSome? ws) :=
  hf.inserts.passes_afterSome? fun w hw => (hws w hw).forall_mem

theorem passes_afterOne? {p : Char → Bool} (hp : AvoidsEnds p) : Passes f (afterOne? p) :=
  hf.inserts.passes_afterOne? hp.forall_mem

theorem passes_afterExactly? {p : Char → Bool} (hp : AvoidsEnds p) (n : Nat) :
    Passes f (afterExactly? p n) :=
  hf.inserts.passes_afterExactly? hp.forall_mem n

theorem passes_afterRun? {p : Char → Bool} (hp : AvoidsEnds p) (n : Nat) :
    Passes f (afterRun? p n) :=
  hf.inserts.passes_afterRun? hp.forall_mem n

theorem overlooks_closesWord : Overlooks f closesWord :=
  hf.inserts.overlooks_closesWord (AvoidsEnds.forall_mem (by decide))

end

/-! ## 3. Readers that return something -/

/-- The same for a reader that returns a value with the rest: the value is the same. -/
def PassesWith {α : Type} (f : Text → Text) (read : Text → Option (α × Text)) : Prop :=
  ∀ s, read (f s) = (read s).map fun x => (x.1, f x.2)

section

variable {α β : Type} {f : Text → Text}

theorem Passes.bindWith {read : Text → Option Text} (h : Passes f read)
    {next : Text → Option (α × Text)} (hnext : PassesWith f next) :
    PassesWith f fun s => (read s).bind next := by
  intro s
  show (read (f s)).bind next = ((read s).bind next).map _
  rw [h s]
  cases read s with
  | none => rfl
  | some rest => exact hnext rest

theorem PassesWith.bind {read : Text → Option (α × Text)} (h : PassesWith f read)
    {next : α → Text → Option (β × Text)} (hnext : ∀ a, PassesWith f (next a)) :
    PassesWith f fun s => (read s).bind fun x => next x.1 x.2 := by
  intro s
  show (read (f s)).bind _ = ((read s).bind _).map _
  rw [h s]
  cases read s with
  | none => rfl
  | some x => exact hnext x.1 x.2

theorem passesWith_some (a : α) : PassesWith f fun s => some (a, s) := fun _ => rfl

end

/-! ## 4. Searches -/

theorem occurs_withReturn {p : Option Char → Text → Bool}
    (hp : ∀ before, Overlooks withReturn (p before)) (hend : p (some '\r') [] = false)
    (s : Text) : occurs p (withReturn s) = occurs p s := by
  have hfrom : ∀ before, occursFrom p before (withReturn s) = occursFrom p before s := by
    induction s with
    | nil =>
      intro before
      show (p before (withReturn []) || p (some '\r') []) = p before []
      rw [hp before [], hend, Bool.or_false]
    | cons c s ih =>
      intro before
      have hhere := hp before (c :: s)
      rw [withReturn_cons] at hhere ⊢
      rw [occursFrom, occursFrom, hhere, ih]
  exact hfrom none

theorem occurs_crlf {p : Option Char → Text → Bool}
    (hp : ∀ before, Overlooks crlf (p before)) (hreturn : ∀ s, p (some '\r') s = false)
    (s : Text) : occurs p (crlf s) = occurs p s := by
  have hfrom : ∀ before, occursFrom p before (crlf s) = occursFrom p before s := by
    induction s with
    | nil => exact fun _ => rfl
    | cons c s ih =>
      intro before
      have hhere := hp before (c :: s)
      by_cases hc : c = '\n'
      · subst hc
        -- there is one more place, between the return and the line feed, where nothing is found
        rw [crlf_newline] at hhere ⊢
        rw [occursFrom, occursFrom, occursFrom, hhere, hreturn, Bool.false_or, ih]
      · rw [crlf_cons hc] at hhere ⊢
        rw [occursFrom, occursFrom, hhere, ih]
  exact hfrom none

theorem firstMatch?_withReturn {α : Type} {read : Option Char → Text → Option α}
    (hread : ∀ before, Overlooks withReturn (read before))
    (hend : read (some '\r') [] = none) (s : Text) :
    firstMatch? read (withReturn s) = firstMatch? read s := by
  have hfrom : ∀ before, firstMatchFrom? read before (withReturn s)
      = firstMatchFrom? read before s := by
    induction s with
    | nil =>
      intro before
      show (read before (withReturn []) <|> read (some '\r') []) = read before []
      rw [hread before [], hend]
      cases read before [] <;> rfl
    | cons c s ih =>
      intro before
      have hhere := hread before (c :: s)
      rw [withReturn_cons] at hhere ⊢
      rw [firstMatchFrom?, firstMatchFrom?, hhere, ih]
  exact hfrom none

theorem length_withReturn (s : Text) : (withReturn s).length = s.length + 1 :=
  List.length_append

theorem matchesOf_withReturn {α : Type} {read : Text → Option (α × Text)}
    (h : PassesWith withReturn read) (hnil : read [] = none) (s : Text) :
    matchesOf (fun _ t => read t) (withReturn s) = matchesOf (fun _ t => read t) s := by
  have hfrom : ∀ offset skip before,
      matchesFrom (fun _ t => read t) offset skip before (withReturn s)
        = matchesFrom (fun _ t => read t) offset skip before s := by
    induction s with
    | nil =>
      intro offset skip before
      -- on the return alone nothing is read, as on the empty text
      have hreturn : read ['\r'] = none := by
        have hpass := h []
        rwa [hnil] at hpass
      cases skip with
      | zero =>
        show matchesFrom (fun _ t => read t) offset 0 before ['\r'] = []
        rw [matchesFrom, hreturn]
        rfl
      | succ skip => rfl
    | cons c s ih =>
      intro offset skip before
      cases skip with
      | zero =>
        have hhere := h (c :: s)
        rw [withReturn_cons] at hhere ⊢
        rw [matchesFrom, matchesFrom, hhere]
        cases read (c :: s) with
        | none => exact ih (offset + 1) 0 (some c)
        | some x =>
          -- the same number of characters is passed over, for both texts are longer by one
          show _ :: matchesFrom _ _ ((withReturn s).length - (withReturn x.2).length) _ _ = _
          rw [length_withReturn, length_withReturn, Nat.add_sub_add_right, ih]
      | succ skip => exact ih (offset + 1) skip (some c)
  exact hfrom 0 0 none

end EnvAudit.Text
