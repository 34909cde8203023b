import ReadingLog.Proofs.FileTrees
import ReadingLog.Proofs.SettingsDocument
import ReadingLog.Vault.Basic

/-!
# Saved settings

Settings that are saved in a vault are loaded from it as they were, and a change of one setting leaves all others alone.
-/

namespace ReadingLog

/-! ## Single settings -/

/-- What a change can be made to. -/
inductive Setting where
  | folder
  | datePattern (log : Template.Log)
  | heading (log : Template.Log)
  | template (log : Template.Log) (purpose : Template.Purpose)
  deriving DecidableEq

namespace Templates

theorem get_set (t : Templates) (template : Option String) (purpose other : Template.Purpose) :
    (t.set template purpose).get other = if other = purpose then template else t.get other := by
  cases purpose <;> cases other <;> rfl

theorem ext_get {t t' : Templates} (same : ∀ purpose, t.get purpose = t'.get purpose) : t = t' := by
  obtain ⟨started, finished, abandoned, progress, relativeProgress⟩ := t
  obtain ⟨started', finished', abandoned', progress', relativeProgress'⟩ := t'
  have all := And.intro (same .started) (And.intro (same .finished) (And.intro (same .abandoned)
    (And.intro (same .progress) (same .relativeProgress))))
  simpa [get] using all

end Templates

namespace Settings

/-- The settings of one log. -/
def ofLog (s : Settings) : Template.Log → LogSettings
  | .day => s.daily
  | .book => s.books

/-- The value of a setting; templates and the folder may be absent. -/
def value (s : Settings) : Setting → Option String
  | .folder => s.folder
  | .datePattern log => some (s.ofLog log).datePattern
  | .heading log => some (s.ofLog log).heading
  | .template log purpose => (s.ofLog log).templates.get purpose

/-- The setting that a change is made to. -/
def Change.setting : Change → Setting
  | folder _ => .folder
  | datePattern log _ => .datePattern log
  | heading log _ => .heading log
  | template log purpose _ => .template log purpose

/-- The value that a change gives to its setting. -/
def Change.value : Change → Option String
  | folder value => value
  | datePattern _ value => some value
  | heading _ value => some value
  | template _ _ value => value

theorem ofLog_mapLog (s : Settings) (f : LogSettings → LogSettings) (log other : Template.Log) :
    (s.mapLog f log).ofLog other = if other = log then f (s.ofLog other) else s.ofLog other := by
  cases log <;> cases other <;> rfl

theorem folder_mapLog (s : Settings) (f : LogSettings → LogSettings) (log : Template.Log) :
    (s.mapLog f log).folder = s.folder := by
  cases log <;> rfl

/-- A change is made to its own setting only. -/
theorem value_apply (s : Settings) (c : Change) (setting : Setting) :
    (s.apply c).value setting = if setting = c.setting then c.value else s.value setting := by
  cases c with
  | folder value => cases setting <;> simp [apply, Settings.value, ofLog, Change.setting, Change.value]
  | datePattern log value | heading log value | template log purpose value =>
    cases setting with
    | folder => simp [apply, Settings.value, Change.setting, folder_mapLog]
    | datePattern other | heading other | template other purpose' =>
      -- The other log keeps all its settings, and the same log all but the one.
      by_cases same : other = log <;>
        simp [apply, Settings.value, Change.setting, Change.value, ofLog_mapLog, same, Templates.get_set]

theorem created_apply (s : Settings) (c : Change) : (s.apply c).created = s.created := by
  have kept (f : LogSettings → LogSettings) (log : Template.Log) : (s.mapLog f log).created = s.created := by
    cases log <;> rfl
  cases c with
  | folder value => rfl
  | datePattern log value | heading log value | template log purpose value => exact kept _ log

/-- Settings are the same when all of them have the same values. -/
theorem ext_value {s s' : Settings} (created : s.created = s'.created) (same : ∀ setting, s.value setting = s'.value setting) :
    s = s' := by
  have logs (log : Template.Log) : s.ofLog log = s'.ofLog log := by
    have pattern := Option.some.inj (same (.datePattern log))
    have heading := Option.some.inj (same (.heading log))
    have templates := Templates.ext_get fun purpose => same (.template log purpose)
    cases first : s.ofLog log
    cases second : s'.ofLog log
    simp_all
  obtain ⟨_, _, _, _⟩ := s
  obtain ⟨_, _, _, _⟩ := s'
  simp only [Settings.mk.injEq]
  exact ⟨created, same .folder, logs .day, logs .book⟩

end Settings

/-! ## Saving and loading -/

namespace Vault

variable {t t' : FileTree} {v : Vault} {s : Settings}

theorem dropLast_settingsFile (v : Vault) : v.settingsFile.dropLast = v.settingsFolder := List.dropLast_concat

theorem dropLast_settingsFolder (v : Vault) : v.settingsFolder.dropLast = v.location := List.dropLast_concat

theorem settingsFile_ne_settingsFolder (v : Vault) : v.settingsFile ≠ v.settingsFolder := by
  intro same
  simpa [settingsFile] using congrArg List.length same

/-- Nothing stands in the way of saving settings. -/
structure CanSave (t : FileTree) (v : Vault) : Prop where
  folder : t.find? v.location = some .folder
  settings_folder : ∀ content, t.find? v.settingsFolder ≠ some (.file content)
  settings_file : t.find? v.settingsFile ≠ some .folder

theorem loadSettings_eq_ok_iff : loadSettings t v = .ok s ↔
    ∃ document, t.find? v.settingsFile = some (.file (.text document)) ∧ Settings.parse? document = some s := by
  simp only [← FileTree.readText_eq_ok_iff]
  unfold loadSettings
  cases t.readText v.settingsFile with
  | ok document => cases read : Settings.parse? document <;> simp [read]
  | error fault => cases fault <;> simp

/-- Settings cannot be loaded, with an error. -/
inductive Unloadable (t : FileTree) (v : Vault) : Error → Prop
  | missing : t.find? v.settingsFile = none → ¬ t.Blocked v.settingsFile → Unloadable t v (.notVault v.shown)
  | blocked : t.Blocked v.settingsFile → Unloadable t v (.storage .notFolder)
  | folder : t.find? v.settingsFile = some .folder → Unloadable t v (.storage .isFolder)
  | binary {bytes : List UInt8} :
    t.find? v.settingsFile = some (.file (.binary bytes)) → Unloadable t v (.storage .notText)
  | unparsable {document : String} : t.find? v.settingsFile = some (.file (.text document)) →
    Settings.parse? document = none → Unloadable t v (.settings .unparsable)

theorem loadSettings_eq_error_iff {e : Error} : loadSettings t v = .error e ↔ Unloadable t v e := by
  constructor
  · intro failed
    unfold loadSettings at failed
    split at failed
    · next document read =>
      split at failed
      · cases failed
      · next unread =>
        obtain rfl := Except.error.inj failed
        exact .unparsable (FileTree.readText_eq_ok_iff.1 read) unread
    · next unread =>
      obtain rfl := Except.error.inj failed
      rcases FileTree.readText_eq_error_iff.1 unread with ⟨-, other⟩ | ⟨-, other⟩ | ⟨absent, cause⟩
      · cases other
      · cases other
      · refine .missing absent fun blocked => ?_
        rw [FileTree.absence_of_blocked blocked] at cause
        cases cause
    · next fault present unread =>
      obtain rfl := Except.error.inj failed
      rcases FileTree.readText_eq_error_iff.1 unread with ⟨stands, rfl⟩ | ⟨⟨bytes, stands⟩, rfl⟩ | ⟨absent, rfl⟩
      · exact .folder stands
      · exact .binary stands
      · by_cases blocked : t.Blocked v.settingsFile
        · rw [FileTree.absence_of_blocked blocked]
          exact .blocked blocked
        · exact absurd (FileTree.absence_of_clear blocked) present
  · intro unloadable
    unfold loadSettings
    cases unloadable with
    | missing absent clear =>
      rw [FileTree.readText_eq_error_iff.2 (.inr (.inr ⟨absent, rfl⟩)), FileTree.absence_of_clear clear]
    | blocked blocked =>
      have absent := FileTree.find?_of_blocked blocked
      rw [FileTree.readText_eq_error_iff.2 (.inr (.inr ⟨absent, rfl⟩)), FileTree.absence_of_blocked blocked]
    | folder stands => rw [FileTree.readText_eq_error_iff.2 (.inl ⟨stands, rfl⟩)]
    | binary stands => rw [FileTree.readText_eq_error_iff.2 (.inr (.inl ⟨⟨_, stands⟩, rfl⟩))]
    | unparsable stands unread => simp only [FileTree.readText_eq_ok_iff.2 stands, unread]

theorem loadSettings_of_saved (stands : t.find? v.settingsFile = some (.file (.text s.render))) : loadSettings t v = .ok s :=
  loadSettings_eq_ok_iff.2 ⟨s.render, stands, s.parse?_render⟩

/-- Saving changes the settings file and its folder. -/
def Saves (t : FileTree) (v : Vault) (s : Settings) (t' : FileTree) : Prop :=
  ∀ l, t'.find? l = if l = v.settingsFile then some (.file (.text s.render)) else if l = v.settingsFolder then some .folder
    else t.find? l

theorem storageError_eq_ok_iff {α : Type} {outcome : Except StorageFault α} {a : α} :
    storageError outcome = .ok a ↔ outcome = .ok a := by
  cases outcome <;> simp [storageError]

theorem saveSettings_eq_ok_iff : saveSettings t v s = .ok t' ↔
    ∃ t₁, (if t.holds v.settingsFolder then t₁ = t else t.createFolder v.settingsFolder = .ok t₁) ∧
      t₁.writeFile v.settingsFile (.text s.render) = .ok t' := by
  unfold saveSettings
  split <;> simp only [bind_eq_ok_iff, storageError_eq_ok_iff, Except.ok.injEq, @eq_comm _ t]

theorem settingsFile_of_absent (absent : t.find? v.settingsFolder = none) : t.find? v.settingsFile = none :=
  FileTree.find?_concat_of_absent absent _

/-- The settings file can be written into a new settings folder. -/
theorem writeFile_of_createFolder (created : t.createFolder v.settingsFolder = .ok t') (content : Content) :
    ∃ t'', t'.writeFile v.settingsFile content = .ok t'' := by
  obtain ⟨absent, -, puts⟩ := FileTree.createFolder_eq_ok created
  have folder : t'.find? v.settingsFile.dropLast = some .folder := by rw [dropLast_settingsFile, puts.here]
  have free : t'.find? v.settingsFile = none := by
    rw [puts.elsewhere (settingsFile_ne_settingsFolder v), settingsFile_of_absent absent]
  obtain ⟨t'', written, -⟩ := @FileTree.writeFile_of_no_folder t' v.settingsFile content folder (by rw [free]; nofun)
  exact ⟨t'', written⟩

theorem saveSettings_of_canSave (can : CanSave t v) (s : Settings) : ∃ t', saveSettings t v s = .ok t' := by
  simp only [saveSettings_eq_ok_iff]
  cases stands : t.find? v.settingsFolder with
  | none =>
    obtain ⟨t₁, created, -⟩ :=
      FileTree.createFolder_of_absent stands (by rw [dropLast_settingsFolder]; exact can.folder)
    obtain ⟨t', written⟩ := writeFile_of_createFolder created (.text s.render)
    exact ⟨t', t₁, by rwa [if_neg (FileTree.not_holds_iff.2 stands)], written⟩
  | some e =>
    cases e with
    | file content => exact absurd stands (can.settings_folder content)
    | folder =>
      obtain ⟨t', written, -⟩ := @FileTree.writeFile_of_no_folder t v.settingsFile (.text s.render)
        (by rw [dropLast_settingsFile, stands]) can.settings_file
      exact ⟨t', t, by rw [if_pos (FileTree.holds_iff.2 ⟨_, stands⟩)], written⟩

theorem saves_of_saveSettings (saved : saveSettings t v s = .ok t') : CanSave t v ∧ Saves t v s t' := by
  obtain ⟨t₁, made, written⟩ := saveSettings_eq_ok_iff.1 saved
  obtain ⟨folder, no_folder, wrote⟩ := FileTree.writeFile_eq_ok written
  rw [dropLast_settingsFile] at folder
  have outer : t₁.find? v.location = some .folder := by
    rw [← dropLast_settingsFolder]
    exact FileTree.find?_dropLast folder
  split at made
  · obtain rfl := made
    refine ⟨⟨outer, fun content file => ?_, no_folder⟩, fun l => ?_⟩
    · exact absurd (folder.symm.trans file) (by simp)
    · rw [wrote]
      split
      · rfl
      · split
        · next here => rw [here, folder]
        · rfl
  · obtain ⟨absent, parent, puts⟩ := FileTree.createFolder_eq_ok made
    rw [dropLast_settingsFolder] at parent
    rw [puts.elsewhere (settingsFile_ne_settingsFolder v)] at no_folder
    refine ⟨⟨parent, fun content file => ?_, no_folder⟩, fun l => ?_⟩
    · exact absurd (absent.symm.trans file) (by simp)
    · rw [wrote, puts]

theorem canSave_of_loadSettings (loaded : loadSettings t v = .ok s) : CanSave t v := by
  obtain ⟨document, stands, -⟩ := loadSettings_eq_ok_iff.1 loaded
  have folder : t.find? v.settingsFolder = some .folder := by
    rw [← dropLast_settingsFile]
    exact FileTree.find?_dropLast stands
  refine ⟨?_, fun content file => ?_, fun other => ?_⟩
  · rw [← dropLast_settingsFolder]
    exact FileTree.find?_dropLast folder
  · exact absurd (folder.symm.trans file) (by simp)
  · exact absurd (stands.symm.trans other) (by simp)

theorem loadSettings_of_saves (saves : Saves t v s t') : loadSettings t' v = .ok s :=
  loadSettings_of_saved (by rw [saves, if_pos rfl])

theorem editSettings_of_loadSettings (loaded : loadSettings t v = .ok s) (changes : List Settings.Change) :
    editSettings t v changes = saveSettings t v (changes.foldl Settings.apply s) := by
  rw [editSettings, loaded]
  rfl

/-- Settings can be saved wherever nothing stands in the way, and are loaded as they were saved. Where they are loaded,
changed and saved, only what is changed differs. -/
theorem loadSettings_saved (t : FileTree) (v : Vault) (s : Settings) :
    ((∃ t', saveSettings t v s = .ok t') ↔ CanSave t v) ∧
    (∀ t', saveSettings t v s = .ok t' → loadSettings t' v = .ok s) ∧
    (loadSettings t v = .ok s →
      CanSave t v ∧
      ∀ c : Settings.Change, ∃ t' s', editSettings t v [c] = .ok t' ∧ loadSettings t' v = .ok s' ∧
        s'.created = s.created ∧ ∀ setting, s'.value setting = if setting = c.setting then c.value else s.value setting) := by
  refine ⟨⟨?possible, fun can => saveSettings_of_canSave can s⟩, ?loaded, ?edited⟩
  case possible =>
    rintro ⟨t', saved⟩
    exact (saves_of_saveSettings saved).1
  case loaded =>
    intro t' saved
    exact loadSettings_of_saves (saves_of_saveSettings saved).2
  case edited =>
    intro loaded
    have can := canSave_of_loadSettings loaded
    refine ⟨can, fun c => ?_⟩
    obtain ⟨t', saved⟩ := saveSettings_of_canSave can (s.apply c)
    refine ⟨t', s.apply c, ?_, loadSettings_of_saves (saves_of_saveSettings saved).2, s.created_apply c, s.value_apply c⟩
    rw [editSettings_of_loadSettings loaded]
    exact saved

/-- Settings of daily notes that are hard to write down, with no templates at all, and book notes with some of them. -/
def awkwardSettings : Settings where
  created := ⟨⟨-12, 2, 28, by decide⟩, 1439, 60, 500000, by decide, by decide, by decide⟩
  folder := some "a \"quoted\" folder\\"
  daily := ⟨"'YYYY'''MM\r\nDD", "\n'''\n\t\x7f", Templates.none⟩
  books := ⟨"", "[books] # no comment", ⟨some "", none, some "\"\"\"\u0000", none, some "λ = \\u03bb"⟩⟩

theorem loadSettings_saved_awkward :
    CanSave ∅ (standing []) ∧ ∃ t, saveSettings ∅ (standing []) awkwardSettings = .ok t ∧
      loadSettings t (standing []) = .ok awkwardSettings ∧
      ∃ t' s', editSettings t (standing []) [.folder none] = .ok t' ∧ loadSettings t' (standing []) = .ok s' ∧
        s'.created = awkwardSettings.created ∧
        ∀ setting, s'.value setting = if setting = .folder then none else awkwardSettings.value setting := by
  have can : CanSave ∅ (standing []) := ⟨rfl, fun _ => nofun, nofun⟩
  obtain ⟨t, saved⟩ := (loadSettings_saved ∅ (standing []) awkwardSettings).1.2 can
  have loaded := (loadSettings_saved ∅ (standing []) awkwardSettings).2.1 t saved
  exact ⟨can, t, saved, loaded, ((loadSettings_saved t (standing []) awkwardSettings).2.2 loaded).2 (.folder none)⟩

end Vault
end ReadingLog
