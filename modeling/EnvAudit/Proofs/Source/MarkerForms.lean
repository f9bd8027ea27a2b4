import EnvAudit.Proofs.Text.WordEdges
import EnvAudit.Source.Suppression

/-!
# The forms of the ignore marker

The marker is a phrase of three words, bare or in one of three forms of comments.  The bare phrase
has to stand as words of its own.  So it does in a comment that holds nothing else; behind two
slashes it need not, and there the marker is found in longer words too.
`hasIgnoreMarker_iff_holdsPhrase` says on which lines this makes a difference.
-/

namespace EnvAudit

/-! ## 1. The phrase -/

/-- How the phrase is written: its words in any letter case, and between two of them any run of
dashes, underscores and white space. -/
def IsPhrase (phrase : Text) : Prop :=
  ∃ dotenv gap diff gap' ignore, phrase = dotenv ++ (gap ++ (diff ++ (gap' ++ ignore)))
    ∧ dotenv.map Char.toLower = "dotenv".toList ∧ (∀ c ∈ gap, isPhraseGap c)
    ∧ diff.map Char.toLower = "diff".toList ∧ (∀ c ∈ gap', isPhraseGap c)
    ∧ ignore.map Char.toLower = "ignore".toList

theorem toLower_eq_self {c : Char} (h : ¬ isAsciiUpper c) : c.toLower = c := by
  unfold Char.toLower
  rw [dif_neg]
  rintro ⟨hA, hZ⟩
  exact h (isAsciiUpper_iff.mpr ⟨hA, hZ⟩)

/-- The capital of a letter is in no gap between words, as the letter is not. -/
theorem not_isPhraseGap_of_toLower {c a : Char} (ha : isPhraseGap a = false)
    (h : c.toLower = a) : isPhraseGap c = false := by
  by_cases hupper : isAsciiUpper c
  · have hcode := isAsciiUpper_iff.mp hupper
    have hblank : isBlank c = false :=
      not_isBlank_of_isNameChar (isNameChar_iff.mpr (Or.inl hcode))
    have hunderscore : c ≠ '_' := by
      rintro rfl
      exact absurd hupper (by decide)
    have hdash : c ≠ '-' := by
      rintro rfl
      exact absurd hupper (by decide)
    simp [isPhraseGap, hblank, hunderscore, hdash]
  · rw [toLower_eq_self hupper] at h
    rwa [h]

theorem not_isBlank_of_not_isPhraseGap {c : Char} (h : isPhraseGap c = false) :
    isBlank c = false := by
  rw [isPhraseGap, Bool.or_eq_false_iff, Bool.or_eq_false_iff] at h
  exact h.1.1

/-- A word behind a run of characters, if no character of the run is how the word begins. -/
theorem afterAnyCase?_dropWhile_eq_some {p : Char → Bool} {a : Char} {w s rest : Text}
    (hw : w.head? = some a) (hp : ∀ c : Char, c.toLower = a → p c = false) :
    Text.afterAnyCase? w (s.dropWhile p) = some rest
      ↔ ∃ gap word, s = gap ++ (word ++ rest) ∧ (∀ c ∈ gap, p c) ∧ word.map Char.toLower = w := by
  rw [afterAnyCase?_eq_some]
  constructor
  · rintro ⟨word, hword, hlower⟩
    obtain ⟨gap, hs, hgap⟩ := exists_of_dropWhile_eq hword
    exact ⟨gap, word, hs, hgap, hlower⟩
  · rintro ⟨gap, word, rfl, hgap, rfl⟩
    cases word with
    | nil => cases hw
    | cons c word =>
      refine ⟨c :: word, ?_, rfl⟩
      exact dropWhile_append_cons hgap (hp c (Option.some.inj hw)) _

theorem afterPhrase?_eq_some {s rest : Text} :
    afterPhrase? s = some rest ↔ ∃ phrase, s = phrase ++ rest ∧ IsPhrase phrase := by
  have hdiff (c : Char) (h : c.toLower = 'd') : isPhraseGap c = false :=
    not_isPhraseGap_of_toLower (by decide) h
  have hignore (c : Char) (h : c.toLower = 'i') : isPhraseGap c = false :=
    not_isPhraseGap_of_toLower (by decide) h
  simp only [afterPhrase?, Option.bind_eq_bind, Option.bind_eq_some_iff, afterAnyCase?_eq_some,
    afterAnyCase?_dropWhile_eq_some (w := "diff".toList) (by decide) hdiff,
    afterAnyCase?_dropWhile_eq_some (w := "ignore".toList) (by decide) hignore]
  constructor
  · rintro ⟨_, ⟨dotenv, rfl, hdotenv⟩, _, ⟨gap, diff, rfl, hgap, hdiff⟩, gap', ignore, rfl, hgap',
      hignore⟩
    refine ⟨dotenv ++ (gap ++ (diff ++ (gap' ++ ignore))), by simp only [List.append_assoc], ?_⟩
    exact ⟨dotenv, gap, diff, gap', ignore, rfl, hdotenv, hgap, hdiff, hgap', hignore⟩
  · rintro ⟨_, rfl, dotenv, gap, diff, gap', ignore, rfl, hdotenv, hgap, hdiff, hgap', hignore⟩
    simp only [List.append_assoc]
    exact ⟨_, ⟨dotenv, rfl, hdotenv⟩, _, ⟨gap, diff, rfl, hgap, hdiff⟩, gap', ignore, rfl, hgap',
      hignore⟩

theorem IsPhrase.exists_cons {phrase : Text} (h : IsPhrase phrase) :
    ∃ c s, phrase = c :: s ∧ isBlank c = false := by
  obtain ⟨dotenv, gap, diff, gap', ignore, rfl, hdotenv, -⟩ := h
  cases dotenv with
  | nil => cases hdotenv
  | cons c dotenv =>
    have hlower : c.toLower = 'd' := (List.cons.inj hdotenv).1
    have hgap := not_isPhraseGap_of_toLower (by decide) hlower
    exact ⟨c, _, rfl, not_isBlank_of_not_isPhraseGap hgap⟩

theorem afterPhrase?_dropWhile_eq_some {s rest : Text} :
    afterPhrase? (s.dropWhile isBlank) = some rest
      ↔ ∃ blanks phrase, s = blanks ++ (phrase ++ rest) ∧ (∀ c ∈ blanks, isBlank c)
          ∧ IsPhrase phrase := by
  rw [afterPhrase?_eq_some]
  constructor
  · rintro ⟨phrase, hphrase, h⟩
    obtain ⟨blanks, hs, hblanks⟩ := exists_of_dropWhile_eq hphrase
    exact ⟨blanks, phrase, hs, hblanks, h⟩
  · rintro ⟨blanks, phrase, rfl, hblanks, h⟩
    obtain ⟨c, t, rfl, hc⟩ := h.exists_cons
    exact ⟨c :: t, dropWhile_append_cons hblanks hc _, h⟩

/-! ## 2. The four forms -/

theorem opensWithPhrase_iff {opening : String} {s : Text} :
    opensWithPhrase opening s
      ↔ ∃ blanks phrase rest, s = opening.toList ++ (blanks ++ (phrase ++ rest))
          ∧ (∀ c ∈ blanks, isBlank c) ∧ IsPhrase phrase := by
  simp only [opensWithPhrase, Option.isSome_iff_exists, Option.bind_eq_some_iff,
    Text.after?_eq_some, afterPhrase?_dropWhile_eq_some]
  constructor
  · rintro ⟨rest, _, rfl, blanks, phrase, rfl, hblanks, h⟩
    exact ⟨blanks, phrase, rest, rfl, hblanks, h⟩
  · rintro ⟨blanks, phrase, rest, rfl, hblanks, h⟩
    exact ⟨rest, _, rfl, blanks, phrase, rfl, hblanks, h⟩

/-- A comment that holds the phrase alone opens with it, and white space or the end of the comment
comes behind it. -/
theorem exists_of_enclosesPhrase {opening closing : String} {s : Text}
    (h : enclosesPhrase opening closing s) :
    ∃ blanks phrase blanks' rest,
      s = opening.toList ++ (blanks ++ (phrase ++ (blanks' ++ (closing.toList ++ rest))))
        ∧ (∀ c ∈ blanks, isBlank c) ∧ IsPhrase phrase ∧ ∀ c ∈ blanks', isBlank c := by
  simp only [enclosesPhrase, Option.isSome_iff_exists, Option.bind_eq_bind,
    Option.bind_eq_some_iff, Text.after?_eq_some, afterPhrase?_dropWhile_eq_some] at h
  obtain ⟨rest, _, rfl, _, ⟨blanks, phrase, rfl, hblanks, hphrase⟩, hclosing⟩ := h
  obtain ⟨blanks', rfl, hblanks'⟩ := exists_of_dropWhile_eq hclosing
  exact ⟨blanks, phrase, blanks', rest, rfl, hblanks, hphrase, hblanks'⟩

theorem isBarePhrase_iff {before : Option Char} {s : Text} :
    isBarePhrase before s
      ↔ Text.opensWord before
          ∧ ∃ phrase rest, s = phrase ++ rest ∧ IsPhrase phrase ∧ Text.closesWord rest := by
  rw [isBarePhrase, Bool.and_eq_true]
  refine and_congr_right fun _ => ?_
  constructor
  · intro h
    cases hphrase : afterPhrase? s with
    | none =>
      rw [hphrase] at h
      cases h
    | some rest =>
      rw [hphrase] at h
      obtain ⟨phrase, hs, hphrase⟩ := afterPhrase?_eq_some.mp hphrase
      exact ⟨phrase, rest, hs, hphrase, h⟩
  · rintro ⟨phrase, rest, rfl, hphrase, h⟩
    rw [afterPhrase?_eq_some.mpr ⟨phrase, rfl, hphrase⟩]
    exact h

/-! ## 3. Forms on a line -/

/-- The phrase stands on the line as words of its own. -/
def HoldsPhrase (line : Text) : Prop :=
  ∃ before phrase after, line = before ++ (phrase ++ after) ∧ IsPhrase phrase
    ∧ Text.opensWord before.getLast? ∧ Text.closesWord after

/-- Behind two slashes the phrase stands on the line as the beginning of longer words. -/
def HoldsLongerPhrase (line : Text) : Prop :=
  ∃ before blanks phrase after, line = before ++ ("//".toList ++ (blanks ++ (phrase ++ after)))
    ∧ (∀ c ∈ blanks, isBlank c) ∧ IsPhrase phrase ∧ ¬ Text.closesWord after

/-- No word goes on behind the sign that opens a comment and white space. -/
theorem opensWord_of_opening {opening blanks : Text} (hne : opening ≠ [])
    (hopening : opening.all (!isWordChar ·)) (hblanks : ∀ c ∈ blanks, isBlank c)
    (before : Text) : Text.opensWord (before ++ (opening ++ blanks)).getLast? := by
  have hplain : ∀ c ∈ opening ++ blanks, isWordChar c = false :=
    List.forall_mem_append.mpr ⟨forall_mem_of_all_not hopening,
      fun c hc => isWordChar_of_isBlank (hblanks c hc)⟩
  have hne : opening ++ blanks ≠ [] := List.append_ne_nil_of_left_ne_nil hne blanks
  rw [List.getLast?_append, List.getLast?_eq_some_getLast hne, Option.some_or, Text.opensWord,
    hplain _ (List.getLast_mem hne)]
  rfl

theorem closesWord_of_closing {blanks closing : Text} (hne : closing ≠ [])
    (hblanks : ∀ c ∈ blanks, isBlank c) (hclosing : closing.all (!isWordChar ·))
    (rest : Text) : Text.closesWord (blanks ++ (closing ++ rest)) := by
  rw [closesWord_eq_all]
  apply head?_all_not
  apply forall_mem_head?_append fun c hc => isWordChar_of_isBlank (hblanks c hc)
  rw [List.head?_append, List.head?_eq_some_head hne, Option.some_or]
  exact fun c hc => forall_mem_of_all_not hclosing c (Option.some.inj hc ▸ List.head_mem hne)

theorem occurs_isBarePhrase_iff {line : Text} :
    Text.occurs isBarePhrase line ↔ HoldsPhrase line := by
  simp only [Text.occurs_iff, isBarePhrase_iff]
  constructor
  · rintro ⟨before, _, rfl, hopens, phrase, after, rfl, hphrase, hcloses⟩
    exact ⟨before, phrase, after, rfl, hphrase, hopens, hcloses⟩
  · rintro ⟨before, phrase, after, rfl, hphrase, hopens, hcloses⟩
    exact ⟨before, _, rfl, hopens, phrase, after, rfl, hphrase, hcloses⟩

/-- A comment that holds the phrase alone holds it as words of its own. -/
theorem holdsPhrase_of_enclosesPhrase {opening closing : String} {line : Text}
    (hopening : opening.toList ≠ [] ∧ opening.toList.all (!isWordChar ·))
    (hclosing : closing.toList ≠ [] ∧ closing.toList.all (!isWordChar ·))
    (h : Text.occurs (fun _ => enclosesPhrase opening closing) line) : HoldsPhrase line := by
  obtain ⟨before, s, rfl, hs⟩ := Text.occurs_iff.mp h
  obtain ⟨blanks, phrase, blanks', rest, rfl, hblanks, hphrase, hblanks'⟩ :=
    exists_of_enclosesPhrase hs
  refine ⟨before ++ (opening.toList ++ blanks), phrase, blanks' ++ (closing.toList ++ rest), ?_,
    hphrase, opensWord_of_opening hopening.1 hopening.2 hblanks before,
    closesWord_of_closing hclosing.1 hblanks' hclosing.2 rest⟩
  simp only [List.append_assoc]

theorem holdsPhrase_or_of_opensWithPhrase {line : Text}
    (h : Text.occurs (fun _ => opensWithPhrase "//") line) :
    HoldsPhrase line ∨ HoldsLongerPhrase line := by
  obtain ⟨before, s, rfl, hs⟩ := Text.occurs_iff.mp h
  obtain ⟨blanks, phrase, after, rfl, hblanks, hphrase⟩ := opensWithPhrase_iff.mp hs
  by_cases hcloses : Text.closesWord after
  · refine Or.inl ⟨before ++ ("//".toList ++ blanks), phrase, after, ?_, hphrase,
      opensWord_of_opening (by decide) (by decide) hblanks before, hcloses⟩
    simp only [List.append_assoc]
  · exact Or.inr ⟨before, blanks, phrase, after, rfl, hblanks, hphrase, hcloses⟩

theorem HoldsLongerPhrase.occurs {line : Text} (h : HoldsLongerPhrase line) :
    Text.occurs (fun _ => opensWithPhrase "//") line := by
  obtain ⟨before, blanks, phrase, after, rfl, hblanks, hphrase, -⟩ := h
  exact Text.occurs_iff.mpr
    ⟨before, _, rfl, opensWithPhrase_iff.mpr ⟨blanks, phrase, after, rfl, hblanks, hphrase⟩⟩

theorem hasIgnoreMarker_iff_occurs {line : Text} :
    hasIgnoreMarker line
      ↔ Text.occurs (fun _ => opensWithPhrase "//") line
        ∨ Text.occurs (fun _ => enclosesPhrase "/*" "*/") line
        ∨ Text.occurs (fun _ => enclosesPhrase "<!--" "-->") line
        ∨ Text.occurs isBarePhrase line := by
  simp only [hasIgnoreMarker, Text.occurs_iff, marksHere, Bool.or_eq_true, and_or_left, exists_or,
    or_assoc]

/-! ## 4. What the other forms add -/

/-- A line carries the marker if it holds the phrase as words of its own, or as the beginning of
longer words behind two slashes.  The forms with an end find nothing that the bare form does not
find, and the form with two slashes finds more just on lines with such longer words that do not hold
the phrase elsewhere. -/
theorem hasIgnoreMarker_iff_holdsPhrase (line : Text) :
    (hasIgnoreMarker line ↔ HoldsPhrase line ∨ HoldsLongerPhrase line)
      ∧ ((hasIgnoreMarker line ↔ HoldsPhrase line) ↔ (HoldsLongerPhrase line → HoldsPhrase line))
      ∧ (Text.occurs isBarePhrase line ↔ HoldsPhrase line)
      ∧ (Text.occurs (fun _ => enclosesPhrase "/*" "*/") line → Text.occurs isBarePhrase line)
      ∧ (Text.occurs (fun _ => enclosesPhrase "<!--" "-->") line → Text.occurs isBarePhrase line)
      ∧ ((Text.occurs (fun _ => opensWithPhrase "//") line → Text.occurs isBarePhrase line)
          ↔ (HoldsLongerPhrase line → HoldsPhrase line)) := by
  have hbare : Text.occurs isBarePhrase line ↔ HoldsPhrase line := occurs_isBarePhrase_iff
  have hstars (h : Text.occurs (fun _ => enclosesPhrase "/*" "*/") line) : HoldsPhrase line :=
    holdsPhrase_of_enclosesPhrase (by decide) (by decide) h
  have hdashes (h : Text.occurs (fun _ => enclosesPhrase "<!--" "-->") line) : HoldsPhrase line :=
    holdsPhrase_of_enclosesPhrase (by decide) (by decide) h
  have hslashes (h : Text.occurs (fun _ => opensWithPhrase "//") line) :
      HoldsPhrase line ∨ HoldsLongerPhrase line :=
    holdsPhrase_or_of_opensWithPhrase h
  have hmarker : hasIgnoreMarker line ↔ HoldsPhrase line ∨ HoldsLongerPhrase line := by
    rw [hasIgnoreMarker_iff_occurs, hbare]
    constructor
    · rintro (h | h | h | h)
      · exact hslashes h
      · exact Or.inl (hstars h)
      · exact Or.inl (hdashes h)
      · exact Or.inl h
    · rintro (h | h)
      · exact Or.inr (Or.inr (Or.inr h))
      · exact Or.inl h.occurs
  refine ⟨hmarker, ?_, hbare, fun h => hbare.mpr (hstars h), fun h => hbare.mpr (hdashes h), ?_⟩
  · rw [hmarker, or_iff_left_iff_imp]
  · rw [hbare]
    exact ⟨fun h hlonger => h hlonger.occurs, fun h hs => (hslashes hs).elim id h⟩

/-- A comment about something ignored takes its line and the next one out of the checks. -/
theorem hasIgnoreMarker_ignored :
    hasIgnoreMarker "// dotenv-diff-ignored".toList
      ∧ ¬ HoldsPhrase "// dotenv-diff-ignored".toList := by
  rw [← occurs_isBarePhrase_iff]
  decide +kernel

end EnvAudit
