import EnvAudit.Project.Framework
import EnvAudit.Proofs.Source.SensitiveNames

/-!
# Secrets under the browser prefix

What a variable with `NEXT_PUBLIC_` in front holds goes to the browser, and the rules tell a name
there that is sensitive.  They look at the name with its prefix, though, and the prefix ends in the
first half of a public word: `secretExposed_mem_nextBreaches_iff` says which sensitive names pass.
-/

namespace EnvAudit

/-! ## 1. Words in a name with the prefix -/

def browserPrefix : Text := "NEXT_PUBLIC_".toList

/-- An underscore in front changes nothing about how a name is respelled. -/
theorem respellFrom_underscore (s : Text) : respellFrom (some '_') s = respellFrom none s := by
  cases s with
  | nil => rfl
  | cons c s =>
    have hunderscore : isNameSeparator '_' = false := by decide
    simp [respellFrom, respellChar, hunderscore, not_isHump_underscore]

theorem upperSnake_browserPrefix (s : Text) :
    upperSnake (browserPrefix ++ s) = browserPrefix ++ upperSnake s := by
  have hprefix : respellFrom none browserPrefix = browserPrefix := by decide
  have hlast : browserPrefix.getLast? = some '_' := by decide
  rw [upperSnake_eq, upperSnake_eq, respellFrom_append, hprefix, hlast, Option.some_or,
    respellFrom_underscore]

/-- A word that begins in the prefix ends in the key of something. -/
theorem drop_eq_key :
    ∀ w ∈ publicWords ++ sensitiveWords, ¬ w <:+: browserPrefix
      ∧ ∀ n < w.length + 1, w.take n <:+ browserPrefix → n = 0 ∨ w.drop n = "KEY".toList := by
  decide

theorem infix_browserPrefix_append {w t : Text} (hw : w ∈ publicWords ++ sensitiveWords)
    (h : w <:+: browserPrefix ++ t) : w <:+: t ∨ "KEY".toList <+: t := by
  rcases List.infix_append_iff.mp h with hinside | hbehind | ⟨front, back, rfl, hfront, hback⟩
  · exact absurd hinside (drop_eq_key w hw).1
  · exact Or.inl hbehind
  · have hlength : front.length < (front ++ back).length + 1 := by
      rw [List.length_append]
      omega
    have hsplit := (drop_eq_key _ hw).2 front.length hlength
    rw [List.take_left, List.drop_left] at hsplit
    rcases hsplit hfront with hnil | rfl
    · rw [List.length_eq_zero_iff.mp hnil]
      exact Or.inl hback.isInfix
    · exact Or.inr hback

/-- `PUBLIC_KEY` stands across the end of the prefix. -/
theorem isInfix_publicKey {t : Text} (h : "KEY".toList <+: t) :
    "PUBLIC_KEY".toList <:+: browserPrefix ++ t := by
  rcases h with ⟨rest, rfl⟩
  exact ⟨"NEXT_".toList, rest, rfl⟩

/-- With the prefix in front, just those names stop being sensitive that go on with `KEY`. -/
theorem isSensitive_browserPrefix_iff {s : Text} :
    isSensitive (browserPrefix ++ s) ↔ isSensitive s ∧ ¬ "KEY".toList <+: upperSnake s := by
  have hback {w : Text} (h : w <:+: upperSnake s) : w <:+: browserPrefix ++ upperSnake s :=
    h.trans (List.suffix_append browserPrefix _).isInfix
  rw [isSensitive_iff, isSensitive_iff, upperSnake_browserPrefix]
  constructor
  · intro h
    rcases h with ⟨hpublic, w, hw, hfound⟩
    have hkey : ¬ "KEY".toList <+: upperSnake s := fun hkey =>
      hpublic _ (by decide) (isInfix_publicKey hkey)
    refine ⟨⟨fun v hv hword => hpublic v hv (hback hword), w, hw, ?_⟩, hkey⟩
    exact (infix_browserPrefix_append (List.mem_append_right _ hw) hfound).resolve_right hkey
  · intro h
    rcases h with ⟨⟨hpublic, w, hw, hfound⟩, hkey⟩
    refine ⟨fun v hv hword => ?_, w, hw, hback hfound⟩
    exact (infix_browserPrefix_append (List.mem_append_left _ hv) hword).elim (hpublic v hv) hkey

/-! ## 2. What the rules report -/

theorem secretExposed_mem_nextBreaches {u : Usage} {isClientFile : Bool} :
    .secretExposed ∈ nextBreaches u isClientFile
      ↔ startsWith "NEXT_PUBLIC_" u.name ∧ isSensitive u.name := by
  simp [nextBreaches, breachesOf]

theorem key_prefix_upperSnake_iff {s : Text} (hascii : IsAscii s) :
    "KEY".toList <+: upperSnake s ↔ BeginsUnbroken "KEY".toList s := by
  rw [upperSnake_eq, ← respellFrom_underscore,
    prefix_respellFrom_iff isCapitals_key.2 hascii (by decide)]
  exact and_iff_left fun _ c _ => not_isHump_underscore c

/-- A variable with the prefix is reported as exposed, in every file and form, just if what is
behind the prefix is sensitive and does not begin with `KEY`, `KEy`, `Key` or `key`. -/
theorem secretExposed_mem_nextBreaches_iff {u : Usage} {s : Text} (isClientFile : Bool)
    (hname : u.name = "NEXT_PUBLIC_".toList ++ s) (hascii : IsAscii s) :
    .secretExposed ∈ nextBreaches u isClientFile
      ↔ isSensitive s ∧ ¬ BeginsUnbroken "KEY".toList s := by
  have hstarts : startsWith "NEXT_PUBLIC_" u.name := by
    rw [startsWith, List.isPrefixOf_iff_prefix, hname]
    exact List.prefix_append _ s
  rw [secretExposed_mem_nextBreaches, and_iff_right hstarts, hname,
    ← key_prefix_upperSnake_iff hascii]
  exact isSensitive_browserPrefix_iff

/-- A read of the variable through `process.env`, the first thing in a file. -/
def processEnvUsage (name : Text) : Usage where
  name := name
  file := "src/a.ts".toList
  line := 1
  column := 1
  form := .processEnv
  context := "process.env.".toList ++ name
  isLogged := false
  envModule := none

theorem secretExposed_apiSecret :
    isSensitive "API_SECRET".toList ∧ ¬ BeginsUnbroken "KEY".toList "API_SECRET".toList
      ∧ .secretExposed ∈ nextBreaches (processEnvUsage "NEXT_PUBLIC_API_SECRET".toList) false := by
  have hsensitive : isSensitive "API_SECRET".toList := by decide
  have hkey : ¬ BeginsUnbroken "KEY".toList "API_SECRET".toList := by
    rw [← key_prefix_upperSnake_iff (by decide)]
    decide
  exact ⟨hsensitive, hkey,
    (secretExposed_mem_nextBreaches_iff false rfl (by decide)).mpr ⟨hsensitive, hkey⟩⟩

/-- A sensitive name that passes: `PUBLIC_KEY` stands across the end of the prefix. -/
theorem not_secretExposed_keySecret :
    isSensitive "KEY_SECRET".toList
      ∧ .secretExposed ∉ nextBreaches (processEnvUsage "NEXT_PUBLIC_KEY_SECRET".toList) false
      ∧ .secretExposed ∉ nextBreaches (processEnvUsage "NEXT_PUBLIC_KEY_SECRET".toList) true := by
  decide

end EnvAudit
