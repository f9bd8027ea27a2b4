import EnvAudit.Files.Access
import EnvAudit.Proofs.Lists
import EnvAudit.Proofs.Text.Utf8

/-!
# Names of entries

What names an entry of a directory is any bytes but those that lead elsewhere (`IsEntryName`), be
they text or not.  A name that is text is read as that text (`toText?_eq_some_iff`) and shown as it
(`shown_ofText`).  The extension of a name is text where the bytes behind its last dot are, whatever
stands before them (`extension?_toText?_iff`).
-/

namespace EnvAudit

/-! ## 1. Names that are text -/

namespace FileName

variable {n : FileName} {t : Text}

theorem ofText_injective : Function.Injective ofText :=
  fun _ _ h => Text.bytes_injective (congrArg bytes h)

theorem toText?_eq_some_iff : n.toText? = some t ↔ n = t := by
  rw [toText?, Text.ofUtf8?_toByteArray]
  exact ⟨fun h => congrArg FileName.mk h, fun h => congrArg bytes h⟩

@[simp] theorem shown_ofText (t : Text) : shown t = t := Text.lossy_bytes t

/-- A slash is shown just where there is one. -/
theorem slash_mem_shown : '/' ∈ n.shown ↔ 0x2F ∈ n.bytes :=
  Text.mem_lossy_iff (c := '/') (by decide) (by decide)

theorem slash_mem_bytes : 0x2F ∈ (ofText t).bytes ↔ '/' ∈ t :=
  Text.mem_bytes_iff (c := '/') (by decide) (by decide)

theorem dot_mem_bytes : 0x2E ∈ (ofText t).bytes ↔ '.' ∈ t :=
  Text.mem_bytes_iff (c := '.') (by decide) (by decide)

end FileName

/-! ## 2. Names of entries -/

/-- A name that an entry can have: not empty, no dots that lead elsewhere, no slash. -/
structure IsEntryName (n : FileName) : Prop where
  ne_nil : n ≠ .ofText []
  ne_dot : n ≠ .ofText ['.']
  ne_dots : n ≠ .ofText ['.', '.']
  slash_not_mem : 0x2F ∉ n.bytes

instance (n : FileName) : Decidable (IsEntryName n) :=
  decidable_of_iff
    (n ≠ .ofText [] ∧ n ≠ .ofText ['.'] ∧ n ≠ .ofText ['.', '.'] ∧ 0x2F ∉ n.bytes)
    ⟨fun h => ⟨h.1, h.2.1, h.2.2.1, h.2.2.2⟩,
      fun h => ⟨h.ne_nil, h.ne_dot, h.ne_dots, h.slash_not_mem⟩⟩

theorem isEntryName_ofText {t : Text} :
    IsEntryName t ↔ t ≠ [] ∧ t ≠ ['.'] ∧ t ≠ ['.', '.'] ∧ '/' ∉ t := by
  have hne (t' : Text) : FileName.ofText t ≠ .ofText t' ↔ t ≠ t' :=
    FileName.ofText_injective.ne_iff
  rw [← hne, ← hne, ← hne, ← FileName.slash_mem_bytes]
  exact ⟨fun h => ⟨h.ne_nil, h.ne_dot, h.ne_dots, h.slash_not_mem⟩,
    fun h => ⟨h.1, h.2.1, h.2.2.1, h.2.2.2⟩⟩

/-- What is shown of the name of an entry could be the name of one. -/
theorem IsEntryName.shown {n : FileName} (h : IsEntryName n) : IsEntryName n.shown := by
  have hne {t : Text} (ht : ∀ c ∈ t, 0 < c.toNat ∧ c.toNat < 128) (hn : n ≠ .ofText t) :
      n.shown ≠ t := fun heq => hn (congrArg FileName.mk (Text.eq_bytes_of_lossy_eq ht heq))
  exact isEntryName_ofText.mpr ⟨hne (by simp) h.ne_nil, hne (by simp) h.ne_dot,
    hne (by simp) h.ne_dots, mt FileName.slash_mem_shown.mp h.slash_not_mem⟩

namespace IsEntryName

variable {name : Text} (h : IsEntryName name)
include h

theorem text_ne_nil : name ≠ [] := (isEntryName_ofText.mp h).1

theorem text_ne_dots : name ≠ ['.', '.'] := (isEntryName_ofText.mp h).2.2.1

theorem slash_not_mem_text : '/' ∉ name := (isEntryName_ofText.mp h).2.2.2

theorem not_isIdle : Path.isIdle name = false := by
  simp [Path.isIdle, h.text_ne_nil, (isEntryName_ofText.mp h).2.1]

theorem not_isAbsolute : Path.isAbsolute name = false := by
  unfold Path.isAbsolute
  rw [beq_eq_false_iff_ne]
  exact fun hhead => h.slash_not_mem_text (List.mem_of_mem_head? hhead)

end IsEntryName

/-! ## 3. Extensions -/

/-- The part of a name behind its last dot is this text, and the dot is not the first byte. -/
def HasExtension (name : FileName) (ext : Text) : Prop :=
  ∃ front, front ≠ [] ∧ name.bytes = front ++ 0x2E :: ext.bytes ∧ '.' ∉ ext

namespace FileName

variable {name ext : FileName}

/-- The extension as it is read, from the end of the name. -/
theorem extension?_eq_some_iff_reverse :
    name.extension? = some ext
      ↔ ∃ front, front ≠ [] ∧ name.bytes.reverse.takeWhile (· != 0x2E) = ext.bytes.reverse
        ∧ name.bytes.reverse.dropWhile (· != 0x2E) = 0x2E :: front.reverse := by
  unfold extension?
  dsimp only
  constructor
  · intro h
    split at h
    next => cases h
    next => cases h
    next hnil hsingle =>
      rcases hdrop : name.bytes.reverse.dropWhile (· != 0x2E) with _ | ⟨dot, _ | ⟨last, rest⟩⟩
      · exact absurd hdrop hnil
      · exact absurd hdrop (hsingle dot)
      · have hdot := List.head?_dropWhile_not (· != 0x2E) name.bytes.reverse
        rw [hdrop] at hdot
        have hdot : dot = 0x2E := by simpa using hdot
        refine ⟨(last :: rest).reverse, by simp, ?_, by rw [List.reverse_reverse, hdot]⟩
        rw [← Option.some.inj h, List.reverse_reverse]
  · rintro ⟨front, hfront, htake, hdrop⟩
    have hne : front.reverse ≠ [] := mt List.reverse_eq_nil_iff.mp hfront
    rcases List.exists_cons_of_ne_nil hne with ⟨last, rest, hrest⟩
    rw [hdrop, htake, hrest, List.reverse_reverse]

theorem extension?_eq_some_iff :
    name.extension? = some ext
      ↔ ∃ front, front ≠ [] ∧ name.bytes = front ++ 0x2E :: ext.bytes ∧ 0x2E ∉ ext.bytes := by
  rw [extension?_eq_some_iff_reverse]
  have hdots : (∀ b ∈ ext.bytes.reverse, b != 0x2E) ↔ 0x2E ∉ ext.bytes := by
    simp only [List.mem_reverse, bne_iff_ne]
    exact ⟨fun h hdot => h 0x2E hdot rfl, fun h b hb hdot => h (hdot ▸ hb)⟩
  refine exists_congr fun front => and_congr_right fun _ => ?_
  rw [span_eq_iff, List.reverse_eq_iff, hdots]
  simp [List.reverse_append]

/-- An extension that is no text counts as none. -/
theorem extension?_toText?_iff {ext : Text} :
    name.extension?.bind toText? = some ext ↔ HasExtension name ext := by
  rw [Option.bind_eq_some_iff]
  simp only [toText?_eq_some_iff, exists_eq_right, extension?_eq_some_iff, dot_mem_bytes]
  rfl

end FileName

end EnvAudit
