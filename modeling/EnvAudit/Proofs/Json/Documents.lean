import EnvAudit.Proofs.Json.Tokens

/-!
# Documents of JSON texts

A document has its tokens: brackets and braces around what it holds, commas between the values, a
key and a colon in front of each value of an object.  `parse?_eq_some_iff` says that a text is read
as a document just if it writes the tokens of that document, white space around and between them.
-/

namespace EnvAudit

/-! ## 1. Tokens of a document -/

/-- The parts with commas between them. -/
def joined : List (List JsonToken) → List JsonToken
  | [] => []
  | ts :: tss => ts ++ tss.flatMap (.comma :: ·)

mutual

def JsonSyntax.tokens : JsonSyntax → List JsonToken
  | .null => [.atom .null]
  | .bool b => [.atom (.bool b)]
  | .number digits => [.atom (.number digits)]
  | .string raw => [.string raw]
  | .array items => .openArray :: (joined (itemTokens items) ++ [.closeArray])
  | .object members => .openObject :: (joined (memberTokens members) ++ [.closeObject])

def itemTokens : List JsonSyntax → List (List JsonToken)
  | [] => []
  | j :: js => j.tokens :: itemTokens js

def memberTokens : List (Text × JsonSyntax) → List (List JsonToken)
  | [] => []
  | (key, j) :: ms => (.string key :: .colon :: j.tokens) :: memberTokens ms

end

/-- The text writes the document. -/
def JsonSyntax.Writes (j : JsonSyntax) (s : Text) : Prop := IsSpelled j.tokens s

theorem itemTokens_eq_map (items : List JsonSyntax) :
    itemTokens items = items.map JsonSyntax.tokens := by
  induction items with
  | nil => rfl
  | cons j js ih => rw [itemTokens, ih, List.map_cons]

theorem memberTokens_eq_map (members : List (Text × JsonSyntax)) :
    memberTokens members = members.map fun m => .string m.1 :: .colon :: m.2.tokens := by
  induction members with
  | nil => rfl
  | cons m ms ih => rw [memberTokens, ih, List.map_cons]

theorem JsonSyntax.induct {P : JsonSyntax → Prop} (null : P .null) (bool : ∀ b, P (.bool b))
    (number : ∀ digits, P (.number digits)) (string : ∀ raw, P (.string raw))
    (array : ∀ items, (∀ j ∈ items, P j) → P (.array items))
    (object : ∀ members, (∀ m ∈ members, P m.2) → P (.object members)) (j : JsonSyntax) : P j :=
  @JsonSyntax.rec P (fun items => ∀ j ∈ items, P j) (fun members => ∀ m ∈ members, P m.2)
    (fun m => P m.2) null bool number string array object (List.forall_mem_nil _)
    (fun _ _ hj hjs => List.forall_mem_cons.mpr ⟨hj, hjs⟩) (List.forall_mem_nil _)
    (fun _ _ hm hms => List.forall_mem_cons.mpr ⟨hm, hms⟩) (fun _ _ hj => hj) j

/-! ## 2. The tokens of a document are read back -/

theorem jsonRun?_cons (state : JsonState) (fs : List JsonFrame) (t : JsonToken)
    (ts : List JsonToken) :
    jsonRun? state fs (t :: ts) = (jsonStep? state fs t).bind fun p => jsonRun? p.1 p.2 ts := by
  rw [jsonRun?]

/-- The machine takes the tokens of the document for its next value. -/
def IsTaken (j : JsonSyntax) : Prop :=
  ∀ fs ts, jsonRun? .value fs (j.tokens ++ ts) = jsonRun? (.finished j) fs ts

theorem jsonRun?_firstItem (j : JsonSyntax) (done : List JsonSyntax) (fs : List JsonFrame)
    (ts : List JsonToken) :
    jsonRun? .firstItem (.items done :: fs) (j.tokens ++ ts)
      = jsonRun? .value (.items done :: fs) (j.tokens ++ ts) := by
  cases j <;> rfl

theorem jsonRun?_later_items {js : List JsonSyntax} (h : ∀ j ∈ js, IsTaken j) (v : JsonSyntax)
    (done : List JsonSyntax) (fs : List JsonFrame) (ts : List JsonToken) :
    jsonRun? (.finished v) (.items done :: fs)
        ((js.map JsonSyntax.tokens).flatMap (.comma :: ·) ++ .closeArray :: ts)
      = jsonRun? (.finished (.array (done.reverse ++ v :: js))) fs ts := by
  induction js generalizing v done with
  | nil =>
    rw [List.map_nil, List.flatMap_nil, List.nil_append, ← List.reverse_cons, jsonRun?_cons]
    rfl
  | cons j js ih =>
    rw [List.forall_mem_cons] at h
    rw [List.map_cons, List.flatMap_cons, List.append_assoc, List.cons_append, jsonRun?_cons]
    refine (h.1 (.items (v :: done) :: fs) _).trans ?_
    rw [ih h.2, List.reverse_cons, List.append_assoc, List.singleton_append]

theorem jsonRun?_later_members {ms : List (Text × JsonSyntax)} (h : ∀ m ∈ ms, IsTaken m.2)
    (key : Text) (v : JsonSyntax) (done : List (Text × JsonSyntax)) (fs : List JsonFrame)
    (ts : List JsonToken) :
    jsonRun? (.finished v) (.members done key :: fs)
        ((ms.map fun m => .string m.1 :: .colon :: m.2.tokens).flatMap (.comma :: ·)
          ++ .closeObject :: ts)
      = jsonRun? (.finished (.object (done.reverse ++ (key, v) :: ms))) fs ts := by
  induction ms generalizing key v done with
  | nil =>
    rw [List.map_nil, List.flatMap_nil, List.nil_append, ← List.reverse_cons, jsonRun?_cons]
    rfl
  | cons m ms ih =>
    rw [List.forall_mem_cons] at h
    rw [List.map_cons, List.flatMap_cons, List.append_assoc, List.cons_append, List.cons_append,
      List.cons_append, jsonRun?_cons]
    refine (h.1 (.members ((key, v) :: done) m.1 :: fs) _).trans ?_
    rw [ih h.2, List.reverse_cons, List.append_assoc, List.singleton_append]

theorem isTaken (j : JsonSyntax) : IsTaken j := by
  induction j using JsonSyntax.induct with
  | null => exact fun fs ts => rfl
  | bool b => exact fun fs ts => rfl
  | number digits => exact fun fs ts => rfl
  | string raw => exact fun fs ts => rfl
  | array items ih =>
    intro fs ts
    rw [JsonSyntax.tokens, itemTokens_eq_map, List.cons_append, List.append_assoc]
    cases items with
    | nil => rfl
    | cons j js =>
      rw [List.forall_mem_cons] at ih
      rw [List.map_cons, joined, List.append_assoc]
      refine (jsonRun?_firstItem j [] fs _).trans ((ih.1 (.items [] :: fs) _).trans ?_)
      exact jsonRun?_later_items ih.2 j [] fs ts
  | object members ih =>
    intro fs ts
    rw [JsonSyntax.tokens, memberTokens_eq_map, List.cons_append, List.append_assoc]
    cases members with
    | nil => rfl
    | cons m ms =>
      rw [List.forall_mem_cons] at ih
      rw [List.map_cons, joined, List.append_assoc]
      refine (ih.1 (.members [] m.1 :: fs) _).trans ?_
      exact jsonRun?_later_members ih.2 m.1 m.2 [] fs ts

/-! ## 3. What is read has those tokens -/

/-- The parts with a comma behind each. -/
def followed (tss : List (List JsonToken)) : List JsonToken := tss.flatMap (· ++ [.comma])

theorem joined_append_singleton (tss : List (List JsonToken)) (ts : List JsonToken) :
    joined (tss ++ [ts]) = followed tss ++ ts := by
  have hlater (tss : List (List JsonToken)) :
      (tss ++ [ts]).flatMap (.comma :: ·) = .comma :: (followed tss ++ ts) := by
    induction tss with
    | nil => simp [followed]
    | cons us tss ih => simp [followed, ih]
  cases tss with
  | nil => simp [joined, followed]
  | cons us tss => simp [joined, hlater, followed]

/-- The tokens of the items so far, in the order of the text. -/
def itemsSoFar (done : List JsonSyntax) : List JsonToken :=
  .openArray :: followed (itemTokens done.reverse)

def membersSoFar (done : List (Text × JsonSyntax)) : List JsonToken :=
  .openObject :: followed (memberTokens done.reverse)

/-- The tokens that have been read of what is open. -/
def JsonFrame.tokens : JsonFrame → List JsonToken
  | .items done => itemsSoFar done
  | .members done key => membersSoFar done ++ [.string key, .colon]

/-- The tokens that have been read since the innermost value was opened. -/
def JsonState.tokens : JsonState → List JsonToken
  | .value | .firstItem => []
  | .firstKey done | .nextKey done => membersSoFar done
  | .colon done key => membersSoFar done ++ [.string key]
  | .finished v => v.tokens

/-- All tokens that have been read, in the order of the text. -/
def tokensSoFar (state : JsonState) (fs : List JsonFrame) : List JsonToken :=
  fs.reverse.flatMap JsonFrame.tokens ++ state.tokens

/-- An array or object that waits for its first entry holds none. -/
structure IsReached (state : JsonState) (fs : List JsonFrame) : Prop where
  firstItem : state = .firstItem → ∃ fs', fs = .items [] :: fs'
  firstKey : ∀ done, state = .firstKey done → done = []

theorem itemsSoFar_nil : itemsSoFar [] = [.openArray] := rfl

theorem itemsSoFar_cons (done : List JsonSyntax) (v : JsonSyntax) :
    itemsSoFar (v :: done) = itemsSoFar done ++ (v.tokens ++ [.comma]) := by
  simp [itemsSoFar, itemTokens_eq_map, followed]

theorem membersSoFar_nil : membersSoFar [] = [.openObject] := rfl

theorem membersSoFar_cons (done : List (Text × JsonSyntax)) (key : Text) (v : JsonSyntax) :
    membersSoFar ((key, v) :: done)
      = membersSoFar done ++ (.string key :: .colon :: (v.tokens ++ [.comma])) := by
  simp [membersSoFar, memberTokens_eq_map, followed]

theorem tokens_array (done : List JsonSyntax) (v : JsonSyntax) :
    (JsonSyntax.array (done.reverse ++ [v])).tokens
      = itemsSoFar done ++ (v.tokens ++ [.closeArray]) := by
  rw [JsonSyntax.tokens, itemTokens_eq_map, List.map_append, List.map_singleton,
    joined_append_singleton, itemsSoFar, itemTokens_eq_map, List.cons_append, List.append_assoc]

theorem tokens_object (done : List (Text × JsonSyntax)) (key : Text) (v : JsonSyntax) :
    (JsonSyntax.object (done.reverse ++ [(key, v)])).tokens
      = membersSoFar done ++ (.string key :: .colon :: (v.tokens ++ [.closeObject])) := by
  rw [JsonSyntax.tokens, memberTokens_eq_map, List.map_append, List.map_singleton,
    joined_append_singleton, membersSoFar, memberTokens_eq_map, List.cons_append,
    List.append_assoc]
  rfl

theorem tokens_array_nil : (JsonSyntax.array []).tokens = [.openArray, .closeArray] := rfl

theorem tokens_object_nil : (JsonSyntax.object []).tokens = [.openObject, .closeObject] := rfl

theorem tokens_string (raw : Text) : (JsonSyntax.string raw).tokens = [.string raw] := rfl

/-- Every step takes its token over into what has been read. -/
theorem tokensSoFar_of_jsonStep? {state state' : JsonState} {fs fs' : List JsonFrame}
    {t : JsonToken} (hatom : ∀ v, t = .atom v → v.tokens = [.atom v])
    (hreached : IsReached state fs) (h : jsonStep? state fs t = some (state', fs')) :
    IsReached state' fs' ∧ tokensSoFar state' fs' = tokensSoFar state fs ++ [t] := by
  unfold jsonStep? at h
  -- what is closed while it waits for its first entry is empty
  split at h <;> cases h
  case h_1.refl =>
    obtain ⟨_, hfs⟩ := hreached.firstItem rfl
    cases hfs
    refine ⟨⟨by simp, by simp⟩, ?_⟩
    simp [tokensSoFar, JsonState.tokens, JsonFrame.tokens, itemsSoFar_nil, tokens_array_nil]
  case h_10.refl =>
    cases hreached.firstKey _ rfl
    refine ⟨⟨by simp, by simp⟩, ?_⟩
    simp [tokensSoFar, JsonState.tokens, membersSoFar_nil, tokens_object_nil]
  all_goals
    refine ⟨⟨by simp, by simp⟩, ?_⟩
    simp [tokensSoFar, JsonState.tokens, JsonFrame.tokens, itemsSoFar_nil, itemsSoFar_cons,
      membersSoFar_nil, membersSoFar_cons, tokens_array, tokens_object, tokens_string, hatom]

theorem tokens_of_jsonRun? {state : JsonState} {fs : List JsonFrame} {ts : List JsonToken}
    {j : JsonSyntax} (hatoms : ∀ t ∈ ts, ∀ v, t = .atom v → v.tokens = [.atom v])
    (hreached : IsReached state fs) (h : jsonRun? state fs ts = some j) :
    j.tokens = tokensSoFar state fs ++ ts := by
  induction ts generalizing state fs with
  | nil =>
    unfold jsonRun? at h
    split at h
    · cases h
      simp [tokensSoFar, JsonState.tokens]
    · cases h
    · next hts => cases hts
  | cons t ts ih =>
    rw [List.forall_mem_cons] at hatoms
    rw [jsonRun?_cons, Option.bind_eq_some_iff] at h
    obtain ⟨⟨state', fs'⟩, hstep, hrun⟩ := h
    obtain ⟨hreached', htokens⟩ := tokensSoFar_of_jsonStep? hatoms.1 hreached hstep
    rw [ih hatoms.2 hreached' hrun, htokens, List.append_assoc, List.singleton_append]

theorem IsSpelled.tokens_atom {ts : List JsonToken} {s : Text} (h : IsSpelled ts s) :
    ∀ t ∈ ts, ∀ v, t = .atom v → v.tokens = [.atom v] := by
  induction h with
  | nil => exact List.forall_mem_nil _
  | cons _ ht _ ih =>
    refine List.forall_mem_cons.mpr ⟨?_, ih⟩
    rintro v rfl
    cases ht <;> rfl

/-! ## 4. Texts of documents -/

theorem numbersApart_cons {t : JsonToken} {ts : List JsonToken} (ht : ¬ t.IsNumeral)
    (h : NumbersApart ts) : NumbersApart (t :: ts) :=
  List.isChain_cons.mpr ⟨fun _ _ hboth => ht hboth.1, h⟩

/-- Whatever follows, if it does not begin with a number, stays apart from it. -/
def EndsApart (ts : List JsonToken) : Prop :=
  ∀ rest, NumbersApart rest → (∀ t ∈ rest.head?, ¬ t.IsNumeral) → NumbersApart (ts ++ rest)

theorem endsApart_singleton (t : JsonToken) : EndsApart [t] :=
  fun _ hrest hhead => List.isChain_cons.mpr ⟨fun t' ht' hboth => hhead t' ht' hboth.2, hrest⟩

theorem EndsApart.cons {t : JsonToken} {ts : List JsonToken} (ht : ¬ t.IsNumeral)
    (h : EndsApart ts) : EndsApart (t :: ts) :=
  fun rest hrest hhead => numbersApart_cons ht (h rest hrest hhead)

theorem EndsApart.append_singleton {t : JsonToken} {ts : List JsonToken} (h : EndsApart ts)
    (ht : ¬ t.IsNumeral) : EndsApart (ts ++ [t]) := by
  intro rest hrest _
  rw [List.append_assoc, List.singleton_append]
  exact h (t :: rest) (numbersApart_cons ht hrest) fun t' ht' => Option.some.inj ht' ▸ ht

theorem not_isNumeral {t : JsonToken} (h : ∀ digits, t ≠ .atom (.number digits)) :
    ¬ t.IsNumeral :=
  fun ⟨digits, ht⟩ => h digits ht

theorem endsApart_joined {tss : List (List JsonToken)} (h : ∀ ts ∈ tss, EndsApart ts) :
    EndsApart (joined tss) := by
  have hcomma : ¬ JsonToken.comma.IsNumeral := not_isNumeral fun _ h => nomatch h
  have hlater (tss : List (List JsonToken)) (h : ∀ ts ∈ tss, EndsApart ts)
      (rest : List JsonToken) (hrest : NumbersApart rest)
      (hhead : ∀ t ∈ rest.head?, ¬ t.IsNumeral) :
      NumbersApart (tss.flatMap (.comma :: ·) ++ rest)
        ∧ ∀ t ∈ (tss.flatMap (.comma :: ·) ++ rest).head?, ¬ t.IsNumeral := by
    induction tss with
    | nil => exact ⟨hrest, hhead⟩
    | cons us tss ih =>
      rw [List.forall_mem_cons] at h
      obtain ⟨hapart, hnext⟩ := ih h.2
      rw [List.flatMap_cons, List.append_assoc, List.cons_append]
      exact ⟨numbersApart_cons hcomma (h.1 _ hapart hnext), fun t ht => Option.some.inj ht ▸ hcomma⟩
  intro rest hrest hhead
  cases tss with
  | nil => exact hrest
  | cons us tss =>
    rw [List.forall_mem_cons] at h
    obtain ⟨hapart, hnext⟩ := hlater tss h.2 rest hrest hhead
    rw [joined, List.append_assoc]
    exact h.1 _ hapart hnext

theorem endsApart_tokens (j : JsonSyntax) : EndsApart j.tokens := by
  induction j using JsonSyntax.induct with
  | null => exact endsApart_singleton _
  | bool b => exact endsApart_singleton _
  | number digits => exact endsApart_singleton _
  | string raw => exact endsApart_singleton _
  | array items ih =>
    rw [JsonSyntax.tokens, itemTokens_eq_map]
    refine .cons (not_isNumeral fun _ h => nomatch h) (.append_singleton (endsApart_joined ?_)
      (not_isNumeral fun _ h => nomatch h))
    exact List.forall_mem_map.mpr ih
  | object members ih =>
    rw [JsonSyntax.tokens, memberTokens_eq_map]
    refine .cons (not_isNumeral fun _ h => nomatch h) (.append_singleton (endsApart_joined ?_)
      (not_isNumeral fun _ h => nomatch h))
    refine List.forall_mem_map.mpr fun m hm => ?_
    exact .cons (not_isNumeral fun _ h => nomatch h)
      (.cons (not_isNumeral fun _ h => nomatch h) (ih m hm))

/-- A text is read as the document that it writes, and as no other. -/
theorem JsonSyntax.parse?_eq_some_iff {s : Text} {j : JsonSyntax} :
    JsonSyntax.parse? s = some j ↔ j.Writes s := by
  rw [JsonSyntax.parse?, Option.bind_eq_some_iff]
  constructor
  · rintro ⟨ts, hts, hrun⟩
    have hspelled := isSpelled_of_jsonTokens? hts
    have hreached : IsReached .value [] := ⟨(nomatch ·), fun _ h => nomatch h⟩
    have htokens : j.tokens = ts := tokens_of_jsonRun? hspelled.tokens_atom hreached hrun
    rwa [Writes, htokens]
  · intro hwrites
    have hapart : NumbersApart j.tokens := by
      simpa using endsApart_tokens j [] List.IsChain.nil (fun _ h => nomatch h)
    refine ⟨j.tokens, jsonTokens?_of_isSpelled hwrites hapart, ?_⟩
    have hrun := isTaken j [] []
    rw [List.append_nil] at hrun
    exact hrun

end EnvAudit
