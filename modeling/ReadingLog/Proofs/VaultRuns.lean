import ReadingLog.Proofs.Steps
import ReadingLog.Vault.Report

/-!
# Runs of operations

What becomes of the settings of a vault in the course of time, while operations on this vault and on others succeed and fail,
and other files are changed from outside.
-/

namespace ReadingLog

/-- What the library can be asked for. -/
inductive Operation where
  | setUp (v : Vault) (now : Instant)
  | prepare (v : Vault)
  | edit (v : Vault) (changes : List Settings.Change)
  | load (v : Vault)
  | list (v : Vault)
  | read (v : Vault) (path : NotePath)
  | check (v : Vault)
  | report (v : Vault) (q : Query)

/-- What an operation gives. -/
inductive Answer where
  | done
  | settings (settings : Settings)
  | notes (paths : List NotePath)
  | text (text : String)
  | check (check : TemplateCheck)
  | report (report : Report)

namespace Operation

open Steps (ask settled)

/-- The steps of an operation. -/
def perform : Operation → Steps Answer
  | setUp v now => do Steps.setUp v now; return .done
  | prepare v => do Steps.prepare v; return .done
  | edit v changes => do Steps.editSettings v changes; return .done
  | load v => return .settings (← ask fun t => Vault.loadSettings t v)
  | list v => return .notes (← ask fun t => .ok (Vault.notes t v))
  | read v path => return .text (← ask fun t => Vault.readNote t v path)
  | check v => return .check (← ask fun t => Vault.check t v)
  | report v q => return .report (← ask fun t => Vault.report t v q)

theorem perform_setUp (v : Vault) (now : Instant) (t : FileTree) :
    (setUp v now).perform t = settled .done t (Vault.setUp t v now) := by
  rw [perform, Steps.setUp_eq]
  exact Steps.change_bind_pure ..

theorem perform_prepare (v : Vault) (t : FileTree) : (prepare v).perform t = settled .done t (Vault.prepare t v) :=
  Steps.change_bind_pure ..

/-- The changes that an operation makes to the settings of a vault. -/
def changesTo (root : Vault) : Operation → List Settings.Change
  | edit v changes => if v.location = root.location then changes else []
  | _ => []

end Operation

/-- From some files to others by operations, whether they succeed or fail, and by changes from outside that leave everything
in the settings folder of a vault alone. -/
inductive Run (root : Vault) : FileTree → List Operation → FileTree → Prop
  | done (t : FileTree) : Run root t [] t
  | operation {t t' : FileTree} {ops : List Operation} (op : Operation) (rest : Run root (op.perform.after t) ops t') :
    Run root t (op :: ops) t'
  | outside {t t₁ t' : FileTree} {ops : List Operation}
    (elsewhere : ∀ name inner, t₁.find? (root.settingsFolder ++ name :: inner) = t.find? (root.settingsFolder ++ name :: inner))
    (rest : Run root t₁ ops t') : Run root t ops t'

namespace Vault

/-- The settings file of a vault holds some settings as they are saved. -/
def Stores (v : Vault) (s : Settings) (t : FileTree) : Prop := t.find? v.settingsFile = some (.file (.text s.render))

variable {root v : Vault} {s : Settings} {t t' : FileTree}

theorem settingsFolder_congr (same : v.location = root.location) : v.settingsFolder = root.settingsFolder := by
  rw [settingsFolder, same, settingsFolder]

theorem settingsFile_congr (same : v.location = root.location) : v.settingsFile = root.settingsFile := by
  rw [settingsFile, settingsFolder_congr same, settingsFile]

theorem settingsFile_ne (other : v.location ≠ root.location) : root.settingsFile ≠ v.settingsFile := by
  intro same
  have folders := congrArg List.dropLast same
  rw [dropLast_settingsFile, dropLast_settingsFile] at folders
  have locations := congrArg List.dropLast folders
  rw [dropLast_settingsFolder, dropLast_settingsFolder] at locations
  exact other locations.symm

theorem settingsFile_ne_folder (root v : Vault) : root.settingsFile ≠ v.settingsFolder := by
  intro same
  have names : settingsFileName = settingsFolderName := by
    simpa [settingsFile, settingsFolder] using congrArg List.getLast? same
  exact absurd names (by decide)

theorem Stores.load (stored : root.Stores s t) (same : v.location = root.location) : loadSettings t v = .ok s :=
  loadSettings_of_saved (by rw [settingsFile_congr same]; exact stored)

theorem Stores.settingsFolder (stored : root.Stores s t) (same : v.location = root.location) :
    t.find? v.settingsFolder = some .folder := by
  rw [settingsFolder_congr same, ← dropLast_settingsFile]
  exact FileTree.find?_dropLast stored

/-- What is saved in another vault does not touch the settings. -/
theorem Stores.saves_elsewhere {other : Settings} (stored : root.Stores s t) (elsewhere : v.location ≠ root.location)
    (saves : Saves t v other t') : root.Stores s t' := by
  rw [Stores, saves, if_neg (settingsFile_ne elsewhere), if_neg (settingsFile_ne_folder root v)]
  exact stored

/-- Edits of the vault are made to its settings, and no other operation touches them. -/
theorem Stores.perform (stored : root.Stores s t) (op : Operation) :
    root.Stores ((op.changesTo root).foldl Settings.apply s) (op.perform.after t) := by
  cases op with
  | setUp v now =>
    simp only [Operation.perform, Steps.after_bind_pure, Steps.setUp_eq]
    exact Steps.keeps_after_change (fun t' created => (setUp_eq_ok created).2.1) _ _ stored
  | prepare v =>
    simp only [Operation.perform, Steps.after_bind_pure, Steps.prepare]
    refine Steps.keeps_after_change (fun t' prepared => ?_) _ _ stored
    obtain ⟨absent, -, puts⟩ := prepare_eq_ok prepared
    exact puts.keeps absent
  | edit v changes =>
    simp only [Operation.perform, Steps.after_bind_pure, Steps.editSettings_eq, Operation.changesTo]
    split
    · next here =>
      have loaded := stored.load here
      obtain ⟨t', saved⟩ := saveSettings_of_canSave (canSave_of_loadSettings loaded) (changes.foldl Settings.apply s)
      rw [Steps.after_change_of_ok ((editSettings_of_loadSettings loaded changes).trans saved)]
      rw [Stores, ← settingsFile_congr here, (saves_of_saveSettings saved).2, if_pos rfl]
    · next elsewhere =>
      rcases Steps.after_change (fun t => editSettings t v changes) t with same | edited
      · rw [same]
        exact stored
      · obtain ⟨other, -, saved⟩ := bind_eq_ok_iff.1 edited
        exact stored.saves_elsewhere elsewhere (saves_of_saveSettings saved).2
  | load | list | read | check | report =>
    simp only [Operation.perform, Steps.after_bind_pure, Steps.after_ask]
    exact stored

/-- A run keeps the settings but for the edits in it. -/
theorem Stores.run {ops : List Operation} (run : Run root t ops t') (stored : root.Stores s t) :
    root.Stores ((ops.flatMap (Operation.changesTo root)).foldl Settings.apply s) t' := by
  induction run generalizing s with
  | done t => exact stored
  | operation op rest ih =>
    rw [List.flatMap_cons, List.foldl_append]
    exact ih (stored.perform op)
  | outside elsewhere rest ih =>
    refine ih ?_
    have same := elsewhere settingsFileName []
    exact same.trans stored

theorem stores_of_setUp {now : Instant} (created : (Operation.setUp root now).perform t = .ok .done t') :
    root.Stores (Settings.initial now) t' := by
  rw [Operation.perform_setUp] at created
  cases outcome : setUp t root now with
  | error e =>
    rw [outcome] at created
    contradiction
  | ok t₁ =>
    rw [outcome] at created
    obtain ⟨-, rfl⟩ := EStateM.Result.ok.inj created
    exact (setUp_eq_ok outcome).2.2

/-- From its setting up on, the settings of a vault can always be loaded and are those of a new vault with all edits applied,
and it is never set up again. -/
theorem loadSettings_of_run {t₀ t₁ t : FileTree} {root : Vault} {now : Instant} {ops : List Operation}
    (created : (Operation.setUp root now).perform t₀ = .ok .done t₁) (run : Run root t₁ ops t) :
    ∀ v : Vault, v.location = root.location →
      loadSettings t v = .ok ((ops.flatMap (Operation.changesTo root)).foldl Settings.apply (Settings.initial now)) ∧
      (∀ later, (Operation.setUp v later).perform t = .error (.settings (.alreadyInitialized v.shown)) t) ∧
      (Operation.prepare v).perform t = .error (.settings (.alreadyInitialized v.shown)) t := by
  have stored := (stores_of_setUp created).run run
  intro v same
  have stands := stored.settingsFolder same
  refine ⟨stored.load same, fun later => ?_, ?_⟩
  · rw [Operation.perform_setUp, setUp_of_holds stands, Steps.settled]
  · rw [Operation.perform_prepare, prepare_of_holds stands, Steps.settled]

/-- A folder of notes. -/
def notesFolder : Vault := ⟨[⟨"notes", by decide⟩], "notes"⟩

/-- A folder within the settings folder of the other one. -/
def innerFolder : Vault := .standing (notesFolder.settingsFolder ++ [⟨"inner", by decide⟩])

/-- A folder beside the other one. -/
def libraryFolder : Vault := .standing [⟨"library", by decide⟩]

/-- Setting the notes up again, editing them, and setting up and editing other vaults within their settings and beside them. -/
def notesOperations : List Operation :=
  [.setUp notesFolder .start, .setUp innerFolder .start, .edit notesFolder [.heading .day "\"\"\"\n"],
    .setUp libraryFolder .start, .edit libraryFolder [.folder (some "books")], .check libraryFolder,
    .edit ⟨notesFolder.location, "."⟩ [.folder (some "'"), .template .book .started none]]

/-- The folder beside the notes is removed from outside before the last edit. -/
theorem loadSettings_of_run_notes :
    ∃ t₁ t, (Operation.setUp notesFolder .start).perform ∅ = .ok .done t₁ ∧ Run notesFolder t₁ notesOperations t ∧
      loadSettings t (.standing notesFolder.location) =
        .ok ⟨.start, some "'", ⟨"YYYY-MM-DD", "\"\"\"\n", .initial .day⟩,
          ⟨"YYYY-MM-DD", "Reading Log", (Templates.initial .book).set none .started⟩⟩ ∧
      (Operation.setUp ⟨notesFolder.location, "./notes"⟩ .start).perform t =
        .error (.settings (.alreadyInitialized "./notes")) t := by
  have removed (t : FileTree) (name : Name) (inner : Location) :
      (t.remove libraryFolder.location).find? (notesFolder.settingsFolder ++ name :: inner) =
        t.find? (notesFolder.settingsFolder ++ name :: inner) := by
    rw [FileTree.find?_remove, if_neg]
    rintro ⟨-, above⟩
    exact absurd (List.cons_prefix_cons.1 above).1 (by decide)
  obtain ⟨t₁, created⟩ : ∃ t₁, (Operation.setUp notesFolder .start).perform ∅ = .ok .done t₁ := ⟨_, rfl⟩
  obtain ⟨t, run⟩ : ∃ t, Run notesFolder t₁ notesOperations t :=
    ⟨_, .operation _ <| .operation _ <| .operation _ <| .operation _ <| .operation _ <| .operation _ <|
      .outside (removed _) <| .operation _ <| .done _⟩
  refine ⟨t₁, t, created, run, ?_, ?_⟩
  · exact (loadSettings_of_run created run (.standing notesFolder.location) rfl).1
  · exact (loadSettings_of_run created run ⟨notesFolder.location, "./notes"⟩ rfl).2.1 .start

end Vault
end ReadingLog
