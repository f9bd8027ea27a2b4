import Mathlib.Data.List.Find
import EnvAudit.Project.Framework
import EnvAudit.Proofs.Source.IgnoreComment
import EnvAudit.Proofs.Source.LiteralAssignment
import EnvAudit.Proofs.Text.Passing

/-!
# Source texts with other line ends

What is read on a line does not depend on a carriage return at its end, since every reader passes
it.  So a source file with a carriage return before every line feed has the same usages and the
same secrets (`scanUsages_crlf`, `sourceSecrets_crlf`) and is a client component if it was one
before (`isClientComponent_crlf`).
-/

namespace EnvAudit

open Text (crlf withReturn GainsReturn Inserts AddsReturns AvoidsEnds IsOneLine Passes PassesWith
  Overlooks)

/-! ## 1. The ignore marker -/

section

variable {f : Text → Text} (hf : AddsReturns f)
include hf

theorem passes_afterPhrase? : Passes f afterPhrase? := by
  have hdotenv : Passes f (Text.afterAnyCase? "dotenv".toList) :=
    Text.passes_afterAnyCase? hf (by decide)
  have hdiff : Passes f (Text.afterAnyCase? "diff".toList) :=
    Text.passes_afterAnyCase? hf (by decide)
  have hignore : Passes f (Text.afterAnyCase? "ignore".toList) :=
    Text.passes_afterAnyCase? hf (by decide)
  -- a gap takes returns as well, and a gap that goes to the end of the text has no word behind it
  have hlast : Passes f fun s => Text.afterAnyCase? "ignore".toList (s.dropWhile isPhraseGap) :=
    hignore.skip hf rfl rfl rfl
  have hwords := hdotenv.bind ((hdiff.bind hlast).skip hf rfl (p := isPhraseGap) rfl rfl)
  exact hwords

theorem overlooks_opensWithPhrase {opening : String} (h : IsOneLine opening.toList) :
    Overlooks f (opensWithPhrase opening) :=
  ((Text.passes_after? hf h).bind ((passes_afterPhrase? hf).skipBlanks hf rfl)).isSome

theorem overlooks_enclosesPhrase {opening closing : String} (hopening : IsOneLine opening.toList)
    (hclosing : IsOneLine closing.toList) (hne : Text.after? closing.toList [] = none) :
    Overlooks f (enclosesPhrase opening closing) := by
  have hend := (Text.passes_after? hf hclosing).skipBlanks hf hne
  have hphrase := ((passes_afterPhrase? hf).bind hend).skipBlanks hf rfl
  exact ((Text.passes_after? hf hopening).bind hphrase).isSome

theorem overlooks_isBarePhrase (before : Option Char) : Overlooks f (isBarePhrase before) := by
  intro s
  rw [isBarePhrase, isBarePhrase, passes_afterPhrase? hf, Option.map_map]
  congr 3
  exact funext (Text.overlooks_closesWord hf)

theorem overlooks_marksHere (before : Option Char) : Overlooks f (marksHere before) := by
  intro s
  rw [marksHere, marksHere, overlooks_opensWithPhrase hf (by decide) s,
    overlooks_enclosesPhrase hf (by decide) (by decide) rfl s,
    overlooks_enclosesPhrase hf (by decide) (by decide) rfl s, overlooks_isBarePhrase hf before s]

end

theorem hasIgnoreMarker_withReturn (l : Text) :
    hasIgnoreMarker (withReturn l) = hasIgnoreMarker l :=
  Text.occurs_withReturn (overlooks_marksHere Text.addsReturns_withReturn) (by decide) l

/-! ## 2. References -/

section

variable {f : Text → Text} (hf : AddsReturns f)
include hf

theorem passesWith_capitalName? : PassesWith f capitalName? := by
  intro s
  -- the reader writes its class out
  have hclass : (fun c => isAsciiUpper c || isAsciiDigit c || c == '_') = isCapitalChar := rfl
  simp only [capitalName?, hclass]
  rw [Text.takeWhile_of_avoidsEnds hf (by decide), Text.dropWhile_of_avoidsEnds hf (by decide)]
  cases s.takeWhile isCapitalChar with
  | nil => rfl
  | cons c name =>
    simp only [Text.overlooks_closesWord hf _]
    split <;> rfl

theorem passesWith_anyName? : PassesWith f anyName? := by
  intro s
  simp only [anyName?]
  rw [Text.takeWhile_of_avoidsEnds hf (by decide), Text.dropWhile_of_avoidsEnds hf (by decide)]
  cases s.takeWhile isNameChar with
  | nil => rfl
  | cons c name =>
    simp only
    split <;> rfl

theorem passesWith_eitherWord? {yes no : String} (hyes : IsOneLine yes.toList)
    (hno : IsOneLine no.toList) : PassesWith f (eitherWord? yes no) := by
  intro s
  rw [eitherWord?, eitherWord?, Text.passes_after? hf hyes s, Text.passes_after? hf hno s]
  cases Text.after? yes.toList s with
  | some rest => rfl
  | none => cases Text.after? no.toList s <;> rfl

theorem passesWith_moduleName? : PassesWith f moduleName? := by
  have hopening : Passes f (Text.after? "$env/".toList) := Text.passes_after? hf (by decide)
  have hslash : Passes f (Text.after? ['/']) := Text.passes_after? hf (by decide)
  have hkind : PassesWith f (eitherWord? "static" "dynamic") :=
    passesWith_eitherWord? hf (by decide) (by decide)
  have hside : PassesWith f (eitherWord? "public" "private") :=
    passesWith_eitherWord? hf (by decide) (by decide)
  have hparts := hopening.bindWith <| hkind.bind fun isStatic =>
    hslash.bindWith <| hside.bind fun isPublic =>
      hslash.bindWith <| (passesWith_anyName? hf).bind fun name =>
        Text.passesWith_some (name, some (⟨isStatic, isPublic⟩ : EnvModule))
  exact hparts

theorem passesWith_read? (form : AccessForm) : PassesWith f form.read? := by
  have hname := (passesWith_capitalName? hf).bind fun name =>
    Text.passesWith_some (name, (none : Option EnvModule))
  cases form with
  | processEnv =>
    have hopening : Passes f (Text.after? "process.env.".toList) :=
      Text.passes_after? hf (by decide)
    have hparts := hopening.bindWith hname
    exact hparts
  | importMetaEnv =>
    have hopening : Passes f (Text.after? "import.meta.env.".toList) :=
      Text.passes_after? hf (by decide)
    have hparts := hopening.bindWith hname
    exact hparts
  | svelteModule => exact passesWith_moduleName? hf

theorem overlooks_callsConsole : Overlooks f callsConsole := by
  have hconsole : Passes f (Text.after? "console.".toList) := Text.passes_after? hf (by decide)
  have hmethod : Passes f (Text.afterSome? logMethods) := Text.passes_afterSome? hf (by decide)
  have hbracket : Passes f (Text.after? ['(']) := Text.passes_after? hf (by decide)
  exact (hconsole.bind (hmethod.bind (hbracket.skipBlanks hf rfl))).isSome

end

theorem isLoggingLine_withReturn (l : Text) : isLoggingLine (withReturn l) = isLoggingLine l :=
  Text.occurs_withReturn (fun _ => overlooks_callsConsole Text.addsReturns_withReturn) (by decide) l

theorem usagesOnLine_withReturn (file : Text) (form : AccessForm) (n : Nat) (l : Text)
    (suppressed : Bool) :
    usagesOnLine file form ⟨n, withReturn l, suppressed⟩
      = usagesOnLine file form ⟨n, l, suppressed⟩ := by
  have hread := passesWith_read? Text.addsReturns_withReturn form
  have hnil : form.read? [] = none := by
    cases form <;> rfl
  simp only [usagesOnLine, Text.matchesOf_withReturn hread hnil, Text.trim_withReturn,
    isLoggingLine_withReturn]

/-! ## 3. Secrets -/

/-- No word and no class of the part has one of the stops. -/
def Part.Avoids (stops : Text) : Part → Prop
  | .word choices => ∀ w ∈ choices, ∀ c ∈ stops, c ∉ w
  | .optional choices => ∀ w ∈ choices, ∀ c ∈ stops, c ∉ w
  | .exactly _ isPart => ∀ c ∈ stops, isPart c = false
  | .atLeast _ isPart => ∀ c ∈ stops, isPart c = false
  | .wordEnd => ∀ c ∈ stops, isWordChar c = false

instance (stops : Text) : (part : Part) → Decidable (part.Avoids stops)
  | .word choices =>
    @List.decidableBAll _ _ (fun w => List.decidableBAll (· ∉ w) stops) choices
  | .optional choices =>
    @List.decidableBAll _ _ (fun w => List.decidableBAll (· ∉ w) stops) choices
  | .exactly _ isPart => List.decidableBAll (fun c => isPart c = false) stops
  | .atLeast _ isPart => List.decidableBAll (fun c => isPart c = false) stops
  | .wordEnd => List.decidableBAll (fun c => isWordChar c = false) stops

theorem Part.passes_after? {stops : Text} {f : Text → Text} (hf : Inserts stops f) {part : Part}
    (h : part.Avoids stops) : Passes f part.after? := by
  cases part with
  | word choices => exact hf.passes_afterSome? h
  | optional choices => exact fun s => congrArg some ((hf.passes_afterSome? h).getD_eq s)
  | exactly n isPart => exact hf.passes_afterExactly? h n
  | atLeast n isPart => exact hf.passes_afterRun? h n
  | wordEnd =>
    intro s
    rw [Part.after?, Part.after?, hf.overlooks_closesWord h s]
    split <;> rfl

theorem passes_afterParts?_of_avoids {stops : Text} {f : Text → Text} (hf : Inserts stops f)
    {parts : List Part} (h : ∀ part ∈ parts, part.Avoids stops) : Passes f (afterParts? parts) := by
  induction parts with
  | nil => exact fun _ => rfl
  | cons part parts ih =>
    rw [List.forall_mem_cons] at h
    exact (Part.passes_after? hf h.1).bind (ih h.2)

/-- No word and no class of the part has a character of a line end. -/
def Part.AvoidsEnds : Part → Prop
  | .word choices => ∀ w ∈ choices, IsOneLine w
  | .optional choices => ∀ w ∈ choices, IsOneLine w
  | .exactly _ isPart => Text.AvoidsEnds isPart
  | .atLeast _ isPart => Text.AvoidsEnds isPart
  | .wordEnd => True

instance : (part : Part) → Decidable part.AvoidsEnds
  | .word choices => inferInstanceAs (Decidable (∀ w ∈ choices, IsOneLine w))
  | .optional choices => inferInstanceAs (Decidable (∀ w ∈ choices, IsOneLine w))
  | .exactly _ isPart => inferInstanceAs (Decidable (Text.AvoidsEnds isPart))
  | .atLeast _ isPart => inferInstanceAs (Decidable (Text.AvoidsEnds isPart))
  | .wordEnd => inferInstanceAs (Decidable True)

theorem Part.AvoidsEnds.avoids {part : Part} (h : part.AvoidsEnds) :
    part.Avoids ['\r', '\n'] := by
  cases part with
  | word choices => exact fun w hw => (h w hw).forall_mem
  | optional choices => exact fun w hw => (h w hw).forall_mem
  | exactly n isPart => exact Text.AvoidsEnds.forall_mem h
  | atLeast n isPart => exact Text.AvoidsEnds.forall_mem h
  | wordEnd => exact Text.AvoidsEnds.forall_mem (by decide)

theorem avoidsEnds_of_mem_credentialFormats :
    ∀ format ∈ credentialFormats, ∀ part ∈ format.parts, part.AvoidsEnds := by
  decide +kernel

/-- A credential needs at least one character. -/
theorem afterParts?_nil_of_mem_credentialFormats :
    ∀ format ∈ credentialFormats, (afterParts? format.parts []).isSome = false := by
  decide +kernel

section

variable {f : Text → Text} (hf : AddsReturns f)
include hf

theorem passes_afterParts? {parts : List Part} (h : ∀ part ∈ parts, part.AvoidsEnds) :
    Passes f (afterParts? parts) :=
  passes_afterParts?_of_avoids hf.inserts fun part hpart => (h part hpart).avoids

theorem passesWith_bareLiteral? : PassesWith f bareLiteral? := by
  have hquote : Passes f (Text.afterOne? isQuote) := Text.passes_afterOne? hf (by decide)
  have hclass : AvoidsEnds fun c => !isQuote c && !isBlank c := by decide
  have hliteral : PassesWith f fun s => do
      let literal := s.takeWhile fun c => !isQuote c && !isBlank c
      guard !literal.isEmpty
      let rest ← Text.afterOne? isQuote (s.dropWhile fun c => !isQuote c && !isBlank c)
      return (literal, rest) := by
    intro s
    dsimp only
    rw [Text.takeWhile_of_avoidsEnds hf hclass, Text.dropWhile_of_avoidsEnds hf hclass, hquote]
    cases (guard (!(s.takeWhile fun c => !isQuote c && !isBlank c).isEmpty) : Option Unit) with
    | none => rfl
    | some _ => cases Text.afterOne? isQuote (s.dropWhile fun c => !isQuote c && !isBlank c) <;> rfl
  exact hquote.bindWith hliteral

theorem passes_afterJoint? : Passes f afterJoint? := by
  have hclosing : Passes f (Text.afterOne? fun c => c == '"' || c == '\'') :=
    Text.passes_afterOne? hf (by decide)
  have hsign : Passes f (Text.afterOne? fun c => c == ':' || c == '=') :=
    Text.passes_afterOne? hf (by decide)
  have hquote : Passes f (Text.afterOne? isQuote) := Text.passes_afterOne? hf (by decide)
  have hrest := (hsign.bind (hquote.skipBlanks hf rfl)).skipBlanks hf rfl
  intro s
  have hopen := hrest ((Text.afterOne? (fun c => c == '"' || c == '\'') s).getD s)
  rw [← hclosing.getD_eq] at hopen
  exact hopen

end

theorem credentialIn?_withReturn (l : Text) : credentialIn? (withReturn l) = credentialIn? l := by
  have hisIn : ∀ format ∈ credentialFormats, format.isIn (withReturn l) = format.isIn l := by
    intro format hformat
    have hparts := passes_afterParts? Text.addsReturns_withReturn
      (avoidsEnds_of_mem_credentialFormats format hformat)
    refine Text.occurs_withReturn (fun before s => ?_) ?_ l
    · exact congrArg (fun found => (!format.startsWord || Text.opensWord before) && found)
        (hparts.isSome s)
    · rw [CredentialFormat.beginsHere, afterParts?_nil_of_mem_credentialFormats format hformat,
        Bool.and_false]
  exact List.find?_congr hisIn

theorem bareLiterals_withReturn (l : Text) : bareLiterals (withReturn l) = bareLiterals l := by
  rw [bareLiterals, bareLiterals,
    Text.matchesOf_withReturn (passesWith_bareLiteral? Text.addsReturns_withReturn) rfl]

/-- A return at the end of the line is in no literal that a quote closes. -/
theorem overlooks_closedLiteral? : Overlooks withReturn closedLiteral? := by
  intro s
  have hspan := congrArg List.length (List.takeWhile_append_dropWhile (p := (!isQuote ·)) (l := s))
  rw [List.length_append] at hspan
  simp only [closedLiteral?]
  rw [withReturn, List.takeWhile_append, List.dropWhile_append]
  cases hrest : s.dropWhile (!isQuote ·) with
  | nil =>
    -- without a quote the return is passed over as well
    rw [if_pos List.isEmpty_nil]
    have hreturn : ['\r'].dropWhile (!isQuote ·) = [] := by decide
    rw [hreturn, List.isEmpty_nil, Bool.not_true, Bool.and_false, Bool.and_false]
    rfl
  | cons c rest =>
    rw [hrest, List.length_cons] at hspan
    have hshort : (s.takeWhile (!isQuote ·)).length ≠ s.length := by omega
    rw [if_neg hshort]
    rfl

theorem literalAssignment?_withReturn (before : Option Char) (s : Text) :
    literalAssignment? before (withReturn s) = literalAssignment? before s := by
  have hf := Text.addsReturns_withReturn
  have hliteral : (afterJoint? (withReturn (s.dropWhile isNameChar))).bind closedLiteral?
      = (afterJoint? (s.dropWhile isNameChar)).bind closedLiteral? :=
    (passes_afterJoint? hf).bind_ask overlooks_closedLiteral? (s.dropWhile isNameChar)
  rw [literalAssignment?_eq, literalAssignment?_eq, Text.takeWhile_of_avoidsEnds hf (by decide),
    Text.dropWhile_of_avoidsEnds hf (by decide), hliteral]

theorem suspicionBy?_withReturn (measure : Text → Nat) (limits : SecretLimits) (l : Text) :
    suspicionBy? measure limits (withReturn l) = suspicionBy? measure limits l := by
  have hassigned : Text.firstMatch? literalAssignment? (withReturn l)
      = Text.firstMatch? literalAssignment? l :=
    Text.firstMatch?_withReturn literalAssignment?_withReturn rfl l
  rw [suspicionBy?, suspicionBy?, hassigned, credentialIn?_withReturn, bareLiterals_withReturn]

theorem secretOnLineBy?_withReturn (measure : Text → Nat) (limits : SecretLimits) (file : Text)
    (n : Nat) (l : Text) (suppressed : Bool) :
    secretOnLineBy? measure limits file ⟨n, withReturn l, suppressed⟩
      = secretOnLineBy? measure limits file ⟨n, l, suppressed⟩ := by
  have hsnippet : snippet (withReturn l) = snippet l := by
    rw [snippet, snippet, Text.trim_withReturn]
  simp only [secretOnLineBy?, suspicionBy?_withReturn, hsnippet]

/-! ## 4. Whole files -/

/-- A check that takes lines with a return for the lines without finds the same on all of them. -/
theorem flatMap_numberLines_of_gainsReturn {α : Type} {check : SourceLine → List α}
    (hcheck : ∀ n l suppressed,
      check ⟨n, withReturn l, suppressed⟩ = check ⟨n, l, suppressed⟩)
    {ls ls' : List Text} (h : List.Forall₂ GainsReturn ls ls') :
    (numberLines ls').flatMap check = (numberLines ls).flatMap check := by
  have hfrom : ∀ n marked, (numberLinesFrom n marked ls').flatMap check
      = (numberLinesFrom n marked ls).flatMap check := by
    induction h with
    | nil => exact fun _ _ => rfl
    | cons hl _ ih =>
      intro n marked
      rw [numberLinesFrom, numberLinesFrom, List.flatMap_cons, List.flatMap_cons]
      rcases hl with rfl | rfl
      · rw [ih]
      · rw [hasIgnoreMarker_withReturn, hcheck, ih]
  exact hfrom 1 false

theorem scanUsages_crlf (file content : Text) :
    scanUsages file (crlf content) = scanUsages file content := by
  unfold scanUsages
  apply List.flatMap_congr
  intro form _
  rw [usagesOfForm_eq_flatMap, usagesOfForm_eq_flatMap]
  refine flatMap_numberLines_of_gainsReturn (fun n l suppressed => ?_)
    (Text.forall₂_rows_crlf content)
  simp only [usagesOnLine_withReturn]

theorem sourceSecrets_crlf (limits : SecretLimits) (file content : Text) :
    sourceSecrets limits file (crlf content) = sourceSecrets limits file content := by
  unfold sourceSecrets sourceSecretsBy
  rw [List.filterMap_eq_flatMap_toList, List.filterMap_eq_flatMap_toList]
  refine flatMap_numberLines_of_gainsReturn (fun n l suppressed => ?_)
    (Text.forall₂_lines_crlf content)
  rw [secretOnLineBy?_withReturn]

/-! ## 5. Client components -/

theorem endsLine_crlf (s : Text) : endsLine (crlf s) = endsLine s := by
  induction s with
  | nil => rfl
  | cons c s ih =>
    by_cases hc : c = '\n'
    · subst hc
      rfl
    · rw [Text.crlf_cons hc, endsLine, endsLine, ih]

theorem overlooks_isClientDirective (before : Option Char) :
    Overlooks crlf (isClientDirective before) := by
  have hf := Text.addsReturns_crlf
  have hquote : Passes crlf (Text.afterOne? isPlainQuote) := Text.passes_afterOne? hf (by decide)
  have hwords : Passes crlf (Text.after? "use client".toList) := Text.passes_after? hf (by decide)
  have hmark : Passes crlf (Text.after? [';']) := Text.passes_after? hf (by decide)
  have hend : Overlooks crlf fun s =>
      (guard (endsLine (Text.dropWord [';'] s)) : Option Unit) := by
    intro s
    show guard (endsLine ((Text.after? [';'] (crlf s)).getD (crlf s))) = _
    rw [hmark.getD_eq, endsLine_crlf]
    rfl
  have hline := (hquote.skipBlanks hf rfl).bind_ask (hwords.bind_ask (hquote.bind_ask hend))
  intro s
  exact congrArg (fun found => startsLine before && found.isSome) (hline s)

theorem isClientComponent_crlf (content : Text) :
    isClientComponent (crlf content) = isClientComponent content :=
  Text.occurs_crlf overlooks_isClientDirective (fun _ => rfl) content

end EnvAudit
