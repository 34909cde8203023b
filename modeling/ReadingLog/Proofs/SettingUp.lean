import ReadingLog.Proofs.SavedSettings

/-!
# Setting up vaults

A vault is set up where no settings folder stands. Whatever stood before stays as it was, and the settings of a new vault are
added to it. A settings folder that has lost its settings keeps a vault from being set up again.
-/

namespace ReadingLog.Vault

variable {t t' t₁ : FileTree} {v : Vault}

theorem prepare_of_holds {e : Entry} (stands : t.find? v.settingsFolder = some e) :
    prepare t v = .error (.settings (.alreadyInitialized v.shown)) :=
  if_pos (FileTree.holds_iff.2 ⟨e, stands⟩)

theorem prepare_of_absent (absent : t.find? v.settingsFolder = none) :
    prepare t v = storageError (t.createFolder v.settingsFolder) :=
  if_neg (FileTree.not_holds_iff.2 absent)

theorem prepare_eq_ok (prepared : prepare t v = .ok t') :
    t.find? v.settingsFolder = none ∧ t.find? v.location = some .folder ∧ t.Puts v.settingsFolder .folder t' := by
  cases stands : t.find? v.settingsFolder with
  | some e =>
    rw [prepare_of_holds stands] at prepared
    contradiction
  | none =>
    rw [prepare_of_absent stands, storageError_eq_ok_iff] at prepared
    obtain ⟨-, folder, puts⟩ := FileTree.createFolder_eq_ok prepared
    rw [dropLast_settingsFolder] at folder
    exact ⟨rfl, folder, puts⟩

theorem canSave_of_prepare (prepared : prepare t v = .ok t') : CanSave t' v := by
  obtain ⟨absent, folder, puts⟩ := prepare_eq_ok prepared
  refine ⟨(puts.keeps absent) _ _ folder, fun content file => ?_, ?_⟩
  · exact absurd (puts.here.symm.trans file) (by simp)
  · rw [puts.elsewhere (settingsFile_ne_settingsFolder v), settingsFile_of_absent absent]
    nofun

/-- Once its folder is made, nothing keeps a vault from being set up. -/
theorem prepare_of_createFolders (absent : t.find? v.location = none) (created : t.createFolders [] v.location = .ok t₁) :
    ∃ t', prepare t₁ v = .ok t' := by
  have way : t.MakesWay v.location t₁ := FileTree.makesWay_of_createFolders rfl created
  have folder : t₁.find? v.location = some .folder := by rw [way.makes _ absent, if_pos (List.prefix_refl _)]
  have free : t₁.find? v.settingsFolder = none := by
    rw [settingsFolder, way.makes _ (FileTree.find?_concat_of_absent absent _), if_neg]
    intro above
    have shorter := above.length_le
    rw [List.length_append, List.length_singleton] at shorter
    omega
  obtain ⟨t', made, -⟩ := FileTree.createFolder_of_absent free (by rwa [dropLast_settingsFolder])
  exact ⟨t', by rw [prepare_of_absent free, made]; rfl⟩

theorem setUp_eq_ok_iff {now : Instant} : setUp t v now = .ok t' ↔
    ∃ t₁, (if t.holds v.location then t₁ = t else t.createFolders [] v.location = .ok t₁) ∧
      ∃ t₂, prepare t₁ v = .ok t₂ ∧ saveSettings t₂ v (Settings.initial now) = .ok t' := by
  unfold setUp
  split <;> simp only [bind_eq_ok_iff, storageError_eq_ok_iff, Except.ok.injEq, @eq_comm _ t]

/-- The settings of a new vault are added to what stands. -/
theorem setUp_eq_ok {now : Instant} (created : setUp t v now = .ok t') :
    t.find? v.settingsFolder = none ∧ t.Keeps t' ∧
      t'.find? v.settingsFile = some (.file (.text (Settings.initial now).render)) := by
  obtain ⟨t₁, way, t₂, prepared, saved⟩ := setUp_eq_ok_iff.1 created
  obtain ⟨absent, -, puts⟩ := prepare_eq_ok prepared
  obtain ⟨-, saves⟩ := saves_of_saveSettings saved
  have made : t.Keeps t₁ := by
    split at way
    · rw [way]
      exact .refl t
    · exact (FileTree.makesWay_of_createFolders rfl way).keeps
  have added : t₁.Keeps t' := by
    intro l e stands
    have new {k : Location} (free : t₁.find? k = none) : l ≠ k := by
      rintro rfl
      exact absurd (free.symm.trans stands) (by simp)
    rw [saves, if_neg (new (settingsFile_of_absent absent)), if_neg (new absent)]
    exact puts.keeps absent l e stands
  refine ⟨?_, made.trans added, by rw [saves, if_pos rfl]⟩
  cases stands : t.find? v.settingsFolder with
  | none => rfl
  | some e => exact absurd (absent.symm.trans (made _ _ stands)) (by simp)

theorem setUp_of_holds {e : Entry} (stands : t.find? v.settingsFolder = some e) (now : Instant) :
    setUp t v now = .error (.settings (.alreadyInitialized v.shown)) := by
  have folder : t.find? v.location = some .folder := by
    rw [← dropLast_settingsFolder]
    exact FileTree.find?_dropLast stands
  unfold setUp
  rw [if_pos (FileTree.holds_iff.2 ⟨_, folder⟩)]
  show prepare t v >>= _ = _
  rw [prepare_of_holds stands]
  rfl

/-! ## Folders without settings -/

/-- A folder stands at a location, or one can be made there. -/
def HasRoom (t : FileTree) (l : Location) : Prop := t.find? l = some .folder ∨ t.find? l = none ∧ ¬ t.Blocked l

theorem setUp_of_room (room : HasRoom t v.location) (absent : t.find? v.settingsFolder = none) (now : Instant) :
    ∃ t', setUp t v now = .ok t' := by
  obtain ⟨t₁, way, t₂, prepared⟩ :
      ∃ t₁, (if t.holds v.location then t₁ = t else t.createFolders [] v.location = .ok t₁) ∧
        ∃ t₂, prepare t₁ v = .ok t₂ := by
    rcases room with folder | ⟨free, clear⟩
    · obtain ⟨t₂, made, -⟩ := FileTree.createFolder_of_absent absent (by rwa [dropLast_settingsFolder])
      refine ⟨t, by rw [if_pos (FileTree.holds_iff.2 ⟨_, folder⟩)], t₂, ?_⟩
      rw [prepare_of_absent absent, made]
      rfl
    · have no_file : ∀ k content, k <+: [] ++ v.location → t.find? k ≠ some (.file content) := by
        intro k content above file
        by_cases here : k = v.location
        · rw [here, free] at file
          contradiction
        · exact clear ⟨k, content, above, here, file⟩
      obtain ⟨t₁, created⟩ := FileTree.createFolders_of_clear rfl no_file
      exact ⟨t₁, by rwa [if_neg (FileTree.not_holds_iff.2 free)], prepare_of_createFolders free created⟩
  obtain ⟨t', saved⟩ := saveSettings_of_canSave (canSave_of_prepare prepared) (Settings.initial now)
  exact ⟨t', setUp_eq_ok_iff.2 ⟨t₁, way, t₂, prepared, saved⟩⟩

/-- Where no settings are found, any settings folder is there without a settings file. -/
theorem settingsFolder_of_unset (unset : loadSettings t v = .error (.notVault v.shown)) :
    t.find? v.settingsFile = none ∧ ∀ content, t.find? v.settingsFolder ≠ some (.file content) := by
  cases loadSettings_eq_error_iff.1 unset with
  | missing absent clear =>
    refine ⟨absent, fun content file => clear ⟨v.settingsFolder, content, List.prefix_append _ _, ?_, file⟩⟩
    exact (settingsFile_ne_settingsFolder v).symm

/-- A folder in which no settings are found can be set up just where it has no settings folder, and then has the settings of a
new vault. One with a settings folder but no settings file is neither a vault nor can it be made one. -/
theorem setUp_recovers_iff (room : HasRoom t v.location) (unset : loadSettings t v = .error (.notVault v.shown))
    (now : Instant) :
    ((∃ t', setUp t v now = .ok t' ∧ loadSettings t' v = .ok (Settings.initial now)) ↔ t.find? v.settingsFolder = none) ∧
    (t.find? v.settingsFolder ≠ none → t.find? v.settingsFolder = some .folder ∧ t.find? v.settingsFile = none ∧
      setUp t v now = .error (.settings (.alreadyInitialized v.shown))) := by
  refine ⟨⟨?_, fun absent => ?_⟩, fun present => ?_⟩
  · rintro ⟨t', created, -⟩
    exact (setUp_eq_ok created).1
  · obtain ⟨t', created⟩ := setUp_of_room room absent now
    exact ⟨t', created, loadSettings_of_saved (setUp_eq_ok created).2.2⟩
  · obtain ⟨e, stands⟩ := Option.ne_none_iff_exists'.1 present
    obtain ⟨no_settings, no_file⟩ := settingsFolder_of_unset unset
    cases e with
    | file content => exact absurd stands (no_file content)
    | folder => exact ⟨stands, no_settings, setUp_of_holds stands now⟩

/-- A vault whose setting up ended after its settings folder was made. -/
def interruptedVault : FileTree := (∅ : FileTree).put [settingsFolderName] .folder (by decide)

theorem setUp_recovers_iff_fresh :
    (∃ t', setUp ∅ (standing [⟨"notes", by decide⟩]) .start = .ok t' ∧
      loadSettings t' (standing [⟨"notes", by decide⟩]) = .ok (.initial .start)) ∧
    ¬ ∃ t', setUp interruptedVault (standing []) .start = .ok t' ∧
      loadSettings t' (standing []) = .ok (.initial .start) := by
  have bare : ¬ (∅ : FileTree).Blocked [⟨"notes", by decide⟩] := by
    rw [FileTree.blocked_iff]
    decide
  have fresh := setUp_recovers_iff (t := ∅) (v := standing [⟨"notes", by decide⟩]) (.inr ⟨rfl, bare⟩) (by decide +kernel) .start
  have stuck := setUp_recovers_iff (t := interruptedVault) (v := standing []) (.inl rfl) (by decide +kernel) .start
  exact ⟨fresh.1.2 rfl, fun recovered => absurd (stuck.1.1 recovered) (by decide)⟩

/-- No settings are found in it, and yet it cannot be set up. -/
theorem interruptedVault_not_recovered :
    HasRoom interruptedVault (standing []).location ∧
    loadSettings interruptedVault (standing []) = .error (.notVault (standing []).shown) ∧
    ∀ now, setUp interruptedVault (standing []) now = .error (.settings (.alreadyInitialized (standing []).shown)) :=
  ⟨.inl rfl, by decide +kernel, setUp_of_holds (e := .folder) rfl⟩

end ReadingLog.Vault
