import EnvAudit.Project.Schema
import EnvAudit.Proofs.Project.ExposedSecret
import EnvAudit.Proofs.Text.Pieces

/-!
# Client directories

Code in a directory named `components`, `pages` or `app` runs in the browser.  The check of a schema
looks for these names with a slash on either side, so that it misses the directory with which a path
begins: `forall_usageContext_client_iff` says which files in such a directory are taken as client
code, and that all of them are once they lie below a further directory.
-/

namespace EnvAudit

/-! ## 1. Words in a path -/

/-- Whether a word stands in a text does not depend on characters that it does not have. -/
theorem infix_replaceChar_iff {a b : Char} {w s : Text} (ha : a ∉ w) (hb : b ∉ w) :
    w <:+: Text.replaceChar a b s ↔ w <:+: s := by
  constructor
  · rintro ⟨front, back, h⟩
    obtain ⟨_, back', rfl, hleft, -⟩ := List.map_eq_append_iff.mp h.symm
    obtain ⟨front', word, rfl, -, hword⟩ := List.map_eq_append_iff.mp hleft
    -- the word was written as it is: nothing in it is the new character
    have hsame : word = w := by
      rw [← hword, eq_comm]
      refine (List.map_congr_left fun c hc => ?_).trans (List.map_id word)
      have hmem := List.mem_map_of_mem (f := fun c => if c = a then b else c) hc
      rw [hword] at hmem
      by_cases hca : c = a
      · rw [if_pos hca] at hmem
        exact absurd hmem hb
      · exact if_neg hca
    subst hsame
    exact ⟨front', back', rfl⟩
  · rintro ⟨front, back, rfl⟩
    have hword : w.map (fun c => if c = a then b else c) = w := by
      refine (List.map_congr_left fun c hc => if_neg ?_).trans (List.map_id w)
      rintro rfl
      exact ha hc
    refine ⟨Text.replaceChar a b front, Text.replaceChar a b back, ?_⟩
    unfold Text.replaceChar
    rw [List.map_append, List.map_append, hword]

/-! ## 2. Directories in a path -/

/-- The names of the directories on the way to a file; a slash of either kind ends a name. -/
def directoryNames (path : Text) : List Text :=
  (Text.pieces '/' (Text.replaceChar '\\' '/' path)).dropLast

/-- The directories that hold code for the browser. -/
def clientDirectories : List Text := ["components", "pages", "app"].map String.toList

theorem directoryNames_append {slash : Char} (hslash : slash = '/' ∨ slash = '\\')
    (above file : Text) :
    directoryNames (above ++ slash :: file)
      = Text.pieces '/' (Text.replaceChar '\\' '/' above) ++ directoryNames file := by
  have hreplaced : Text.replaceChar '\\' '/' (above ++ slash :: file)
      = Text.replaceChar '\\' '/' above ++ '/' :: Text.replaceChar '\\' '/' file := by
    unfold Text.replaceChar
    rw [List.map_append, List.map_cons]
    rcases hslash with rfl | rfl <;> rfl
  unfold directoryNames
  rw [hreplaced, Text.pieces_append, List.dropLast_append_of_ne_nil (Text.pieces_ne_nil '/' _)]

/-- The names are looked for behind the first directory only. -/
theorem exists_between_infix_iff {path : Text} :
    (∃ d ∈ clientDirectories, '/' :: (d ++ ['/']) <:+: Text.replaceChar '\\' '/' path)
      ↔ ∃ d ∈ (directoryNames path).tail, d ∈ clientDirectories := by
  have hslash : ∀ d ∈ clientDirectories, '/' ∉ d := by decide
  unfold directoryNames
  rw [List.tail_dropLast]
  constructor
  · rintro ⟨d, hd, h⟩
    exact ⟨d, (Text.between_infix_iff (hslash d hd)).mp h, hd⟩
  · rintro ⟨d, h, hd⟩
    exact ⟨d, hd, (Text.between_infix_iff (hslash d hd)).mpr h⟩

/-! ## 3. Files that run in the browser -/

/-- What makes every usage in a file one in client code: a directory for the browser that is not the
first, or one of two words anywhere. -/
def IsClientPath (path : Text) : Prop :=
  (∃ d ∈ (directoryNames path).tail, d ∈ clientDirectories)
    ∨ "client".toList <:+: path ∨ "browser".toList <:+: path

theorem holdsAny_iff {words : List String} {s : Text} :
    holdsAny words s ↔ ∃ w ∈ words, w.toList <:+: s := by
  simp only [holdsAny, List.any_eq_true, Text.hasPart_iff]

theorem holdsAny_clientMarks_iff {path : Text} :
    holdsAny ["/components/", "/pages/", "/app/", "client", "browser"]
        (Text.replaceChar '\\' '/' path) ↔ IsClientPath path := by
  have hclient : "client".toList <:+: Text.replaceChar '\\' '/' path ↔ "client".toList <:+: path :=
    infix_replaceChar_iff (by decide) (by decide)
  have hbrowser :
      "browser".toList <:+: Text.replaceChar '\\' '/' path ↔ "browser".toList <:+: path :=
    infix_replaceChar_iff (by decide) (by decide)
  unfold IsClientPath
  rw [holdsAny_iff, ← exists_between_infix_iff, ← hclient, ← hbrowser]
  simp [clientDirectories, or_assoc]

theorem holdsAny_server_iff {path : Text} :
    holdsAny ["server"] (Text.replaceChar '\\' '/' path) ↔ "server".toList <:+: path := by
  rw [holdsAny_iff, ← infix_replaceChar_iff (a := '\\') (b := '/') (w := "server".toList)
    (by decide) (by decide)]
  simp

theorem usageContext_eq_client_iff {u : Usage} (hserver : ¬ "server".toList <:+: u.file) :
    usageContext u = .client ↔ IsClientPath u.file ∨ u.form = .importMetaEnv := by
  rw [← holdsAny_clientMarks_iff]
  simp only [usageContext]
  rw [if_neg (mt holdsAny_server_iff.mp hserver)]
  split
  next hclient => exact iff_of_true rfl (Or.inl hclient)
  next hclient =>
    rw [or_iff_right hclient]
    cases u.form <;> decide

theorem isClientPath_append {slash : Char} (hslash : slash = '/' ∨ slash = '\\') {file : Text}
    (hfile : ∃ d ∈ directoryNames file, d ∈ clientDirectories) (above : Text) :
    IsClientPath (above ++ slash :: file) := by
  obtain ⟨d, hd, hclient⟩ := hfile
  obtain ⟨first, others, hfirst⟩ :=
    Text.exists_pieces_eq_cons '/' (Text.replaceChar '\\' '/' above)
  refine Or.inl ⟨d, ?_, hclient⟩
  rw [directoryNames_append hslash, hfirst, List.cons_append, List.tail_cons]
  exact List.mem_append_right others hd

/-- Of the files in a directory for the browser, just those are client code in every form of access
that have such a directory behind the first or one of the two words in their path; in the others
only `import.meta.env` is.  Below any further directory all of them are. -/
theorem forall_usageContext_client_iff {file : Text} (hserver : ¬ "server".toList <:+: file)
    (hfile : ∃ d ∈ directoryNames file, d ∈ clientDirectories) :
    ((∀ u : Usage, u.file = file → usageContext u = .client) ↔ IsClientPath file)
      ∧ (∀ u : Usage, u.file = file →
          (usageContext u = .client ↔ IsClientPath file ∨ u.form = .importMetaEnv))
      ∧ ∀ (above : Text) (slash : Char), slash = '/' ∨ slash = '\\' →
          ¬ "server".toList <:+: above ++ slash :: file →
          ∀ u : Usage, u.file = above ++ slash :: file → usageContext u = .client := by
  have hcontext (u : Usage) (hu : u.file = file) :
      usageContext u = .client ↔ IsClientPath file ∨ u.form = .importMetaEnv := by
    subst hu
    exact usageContext_eq_client_iff hserver
  refine ⟨⟨fun hall => ?_, fun hpath u hu => (hcontext u hu).mpr (Or.inl hpath)⟩, hcontext, ?_⟩
  · -- a read through `process.env` is told by the path alone
    let u : Usage := { processEnvUsage [] with file := file }
    exact ((hcontext u rfl).mp (hall u rfl)).resolve_right nofun
  · intro above slash hslash hserver' u hu
    rw [usageContext_eq_client_iff (hu ▸ hserver'), hu]
    exact Or.inl (isClientPath_append hslash hfile above)

/-- The pages of a project are client code if the project is scanned from above, and are not if it is
scanned from where they begin. -/
theorem forall_usageContext_client_pages :
    ¬ "server".toList <:+: "pages\\index.ts".toList
      ∧ (∃ d ∈ directoryNames "pages\\index.ts".toList, d ∈ clientDirectories)
      ∧ ¬ (∀ u : Usage, u.file = "pages\\index.ts".toList → usageContext u = .client)
      ∧ ∀ u : Usage, u.file = "web\\pages\\index.ts".toList → usageContext u = .client := by
  have hserver : ¬ "server".toList <:+: "pages\\index.ts".toList := by decide
  have hfile : ∃ d ∈ directoryNames "pages\\index.ts".toList, d ∈ clientDirectories := by decide
  have hpath : ¬ IsClientPath "pages\\index.ts".toList := by
    rw [← holdsAny_clientMarks_iff]
    decide
  obtain ⟨hall, -, hnested⟩ := forall_usageContext_client_iff hserver hfile
  exact ⟨hserver, hfile, fun h => hpath (hall.mp h),
    hnested "web".toList '\\' (Or.inr rfl) (by decide)⟩

/-- The same read in the same directory: server code if the path begins there. -/
theorem not_usageContext_client_app :
    "app".toList ∈ directoryNames "app/page.tsx".toList
      ∧ ¬ "server".toList <:+: "app/page.tsx".toList
      ∧ usageContext { processEnvUsage "A".toList with file := "app/page.tsx".toList } = .server
      ∧ usageContext { processEnvUsage "A".toList with file := "src/app/page.tsx".toList }
          = .client := by
  decide

end EnvAudit
