import EnvAudit.Source.SensitiveName
import EnvAudit.Proofs.Env.Respelling

/-!
# Sensitive words in a name

Sensitive and public words are looked for in the respelled name only.  A change from a lower-case
letter or a digit to a capital inside a word hides it there, so that a name in mixed letter case can
hold a sensitive word and pass (`isSensitive_iff_holdsSensitiveWord`).
-/

namespace EnvAudit

/-! ## 1. Words in the respelled name -/

theorem Text.hasPart_iff {w s : Text} : Text.hasPart w s ↔ w <:+: s := by
  induction s with
  | nil => simp [Text.hasPart]
  | cons c s ih =>
    rw [Text.hasPart, Bool.or_eq_true, List.isPrefixOf_iff_prefix, ih, List.infix_cons_iff]

theorem isSensitive_iff {name : Text} :
    isSensitive name
      ↔ (∀ w ∈ publicWords, ¬ w <:+: upperSnake name)
        ∧ ∃ w ∈ sensitiveWords, w <:+: upperSnake name := by
  simp only [isSensitive, Bool.and_eq_true, Bool.not_eq_true', List.any_eq_false, List.any_eq_true,
    Text.hasPart_iff]

/-- A sensitive word stands in the name in some letter case with no change to a capital inside; of
the words with an underscore, what is behind the last one is enough. -/
def HoldsSensitiveWord (name : Text) : Prop :=
  (∃ w ∈ sensitiveWords, '_' ∉ w ∧ StandsUnbroken w name) ∨ StandsApart "KEY".toList name

theorem isCapitals_key : IsCapitals "KEY".toList := by decide

theorem isCapitals_of_mem_sensitiveWords :
    ∀ w ∈ sensitiveWords, '_' ∉ w → IsCapitals w := by decide

/-- The sensitive words with an underscore are the keys of something. -/
theorem isInfix_underscoreKey : ∀ w ∈ sensitiveWords, '_' ∈ w → "_KEY".toList <:+: w := by decide

theorem exists_infix_upperSnake_iff {name : Text} (hascii : IsAscii name) :
    (∃ w ∈ sensitiveWords, w <:+: upperSnake name) ↔ HoldsSensitiveWord name := by
  have hkey : "_KEY".toList <:+: upperSnake name ↔ StandsApart "KEY".toList name := by
    rw [upperSnake_eq]
    exact underscore_infix_respellFrom_iff isCapitals_key hascii
  have hword {w : Text} (hw : w ∈ sensitiveWords) (hplain : '_' ∉ w) :
      w <:+: upperSnake name ↔ StandsUnbroken w name := by
    rw [upperSnake_eq]
    exact infix_respellFrom_iff (isCapitals_of_mem_sensitiveWords w hw hplain) hascii
  constructor
  · intro h
    rcases h with ⟨w, hw, hfound⟩
    by_cases hplain : '_' ∈ w
    · exact Or.inr (hkey.mp ((isInfix_underscoreKey w hw hplain).trans hfound))
    · exact Or.inl ⟨w, hw, hplain, (hword hw hplain).mp hfound⟩
  · intro h
    rcases h with ⟨w, hw, hplain, hstands⟩ | hapart
    · exact ⟨w, hw, (hword hw hplain).mpr hstands⟩
    · exact ⟨"_KEY".toList, by decide, hkey.mpr hapart⟩

/-! ## 2. Words in the name in capitals -/

/-- The name in capitals has a sensitive word, and neither it nor the respelled name has a public
one. -/
def IsMarked (name : Text) : Prop :=
  (∃ w ∈ sensitiveWords, w <:+: Text.upper name)
    ∧ ∀ w ∈ publicWords, ¬ w <:+: Text.upper name ∧ ¬ w <:+: upperSnake name

instance (name : Text) : Decidable (IsMarked name) := inferInstanceAs (Decidable (_ ∧ _))

theorem upper_of_isAscii {s : Text} (h : IsAscii s) : Text.upper s = s.map Char.toUpper := by
  induction s with
  | nil => rfl
  | cons c s ih =>
    rw [IsAscii, List.forall_mem_cons] at h
    rw [upper_cons, upperChar_of_lt h.1, ih h.2]
    rfl

theorem infix_upper_iff {w s : Text} (h : IsAscii s) :
    w <:+: Text.upper s ↔ ∃ front p back, s = front ++ p ++ back ∧ p.map Char.toUpper = w := by
  rw [upper_of_isAscii h]
  constructor
  · intro hw
    rcases List.infix_map_iff.mp hw with ⟨p, ⟨front, back, hs⟩, rfl⟩
    exact ⟨front, p, back, hs.symm, rfl⟩
  · intro hw
    rcases hw with ⟨front, p, back, rfl, rfl⟩
    exact List.infix_map_iff.mpr ⟨p, ⟨front, back, rfl⟩, rfl⟩

/-- In a name that is all in one letter case, say, no word is hidden. -/
theorem holdsSensitiveWord_of_isUnbroken {name : Text} (hascii : IsAscii name)
    (hname : IsUnbroken name) (h : ∃ w ∈ sensitiveWords, w <:+: Text.upper name) :
    HoldsSensitiveWord name := by
  rcases h with ⟨w, hw, hfound⟩
  by_cases hplain : '_' ∈ w
  · have hkey : "_KEY".toList <:+: Text.upper name :=
      (isInfix_underscoreKey w hw hplain).trans hfound
    rcases (infix_upper_iff hascii).mp hkey with ⟨front, p, back, rfl, hp⟩
    cases p with
    | nil => cases hp
    | cons a p =>
      rcases List.cons.inj hp with ⟨ha, hp⟩
      refine Or.inr ⟨front, a, p ++ back, by simp, Or.inl (toUpper_eq_underscore.mp ha), p, back,
        rfl, hp, ?_⟩
      exact hname.infix ⟨front ++ [a], back, by simp⟩
  · rcases (infix_upper_iff hascii).mp hfound with ⟨front, p, back, rfl, hp⟩
    exact Or.inl ⟨w, hw, hplain, front, p ++ back, List.append_assoc front p back, p, back, rfl, hp,
      hname.infix ⟨front, back, rfl⟩⟩

/-! ## 3. What passes -/

/-- A name is taken for sensitive if a sensitive word stands in it with no change to a capital
inside, and the respelled name has no public word.  So a name that is marked is taken for sensitive
just if some word in it is not hidden, which is so for every name without such a change. -/
theorem isSensitive_iff_holdsSensitiveWord {name : Text} (hascii : IsAscii name) :
    (isSensitive name
        ↔ (∀ w ∈ publicWords, ¬ w <:+: upperSnake name) ∧ HoldsSensitiveWord name)
      ∧ ((IsMarked name → isSensitive name) ↔ (IsMarked name → HoldsSensitiveWord name))
      ∧ (IsUnbroken name → IsMarked name → isSensitive name) := by
  have hiff : isSensitive name
      ↔ (∀ w ∈ publicWords, ¬ w <:+: upperSnake name) ∧ HoldsSensitiveWord name := by
    rw [isSensitive_iff, exists_infix_upperSnake_iff hascii]
  have hmarked : IsMarked name → (isSensitive name ↔ HoldsSensitiveWord name) := fun h => by
    rw [hiff, and_iff_right fun w hw => (h.2 w hw).2]
  refine ⟨hiff, forall_congr' hmarked, fun hname h => ?_⟩
  exact (hmarked h).mpr (holdsSensitiveWord_of_isUnbroken hascii hname h.1)

theorem isSensitive_databasePassword :
    IsAscii "databasePassword".toList ∧ IsMarked "databasePassword".toList
      ∧ HoldsSensitiveWord "databasePassword".toList ∧ isSensitive "databasePassword".toList := by
  have hascii : IsAscii "databasePassword".toList := by decide
  have hmarked : IsMarked "databasePassword".toList := by decide
  have h : isSensitive "databasePassword".toList := by decide
  exact ⟨hascii, hmarked, ((isSensitive_iff_holdsSensitiveWord hascii).1.mp h).2, h⟩

/-- The capital in the middle hides the word: the name is searched as `DB_PASS_WORD`. -/
theorem not_isSensitive_dbPassWord :
    IsAscii "dbPassWord".toList ∧ IsMarked "dbPassWord".toList
      ∧ ¬ isSensitive "dbPassWord".toList := by
  decide

end EnvAudit
