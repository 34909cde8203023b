import ReadingLog.Proofs.SettingUp

/-!
# Operations in steps

On a disk, setting up a vault takes several steps, one for each folder and file, and an error between two of them could leave
half of a vault. Here the operations on vaults are spelled as such steps, and each of them turns out to be a single change:
no step after the first one that changes anything can fail.
-/

namespace ReadingLog

/-- Steps that change files one after another. An error ends them, and what was changed before it stays changed. -/
abbrev Steps := EStateM Error FileTree

namespace Steps

variable {α : Type}

/-- How a change ends: with an answer and the changed files, or with an error and the files as they were. -/
def settled (answer : α) (t : FileTree) : Except Error FileTree → EStateM.Result Error FileTree α
  | .ok t' => .ok answer t'
  | .error e => .error e t

/-- A single change, which changes nothing when it fails. -/
def change (f : FileTree → Except Error FileTree) : Steps Unit := fun t => settled () t (f t)

/-- A question, which changes nothing. -/
def ask (f : FileTree → Except Error α) : Steps α := fun t =>
  match f t with
  | .ok a => .ok a t
  | .error e => .error e t

/-- All folders on the way from a location along some names. -/
def createFolders (base : Location) : List Name → Steps Unit
  | [] => pure ()
  | name :: rest => do
    match (← get).find? (base ++ [name]) with
    | some .folder => createFolders (base ++ [name]) rest
    | some (.file _) => throw (.storage (if rest = [] then .present else .notFolder))
    | none =>
      change fun t => Vault.storageError (t.createFolder (base ++ [name]))
      createFolders (base ++ [name]) rest

/-- The settings file, after the settings folder if there is none. -/
def saveSettings (v : Vault) (settings : Settings) : Steps Unit := do
  if !(← get).holds v.settingsFolder then
    change fun t => Vault.storageError (t.createFolder v.settingsFolder)
  change fun t => Vault.storageError (t.writeFile v.settingsFile (.text settings.render))

/-- Settings loaded, changed and saved. -/
def editSettings (v : Vault) (changes : List Settings.Change) : Steps Unit := do
  let settings ← ask fun t => Vault.loadSettings t v
  saveSettings v (changes.foldl Settings.apply settings)

/-- A settings folder where nothing of its name stands. -/
def prepare (v : Vault) : Steps Unit := change fun t => Vault.prepare t v

/-- A new vault, whose folder is created if nothing stands there. -/
def setUp (v : Vault) (now : Instant) : Steps Unit := do
  if !(← get).holds v.location then
    createFolders [] v.location
  prepare v
  saveSettings v (Settings.initial now)

/-! ## Single changes -/

variable {f g : FileTree → Except Error FileTree} {t : FileTree}

theorem change_of_ok {t' : FileTree} (changed : f t = .ok t') : change f t = .ok () t' :=
  congrArg (settled () t) changed

theorem change_of_error {e : Error} (failed : f t = .error e) : change f t = .error e t :=
  congrArg (settled () t) failed

theorem change_bind_pure (f : FileTree → Except Error FileTree) (answer : α) (t : FileTree) :
    (change f >>= fun _ => pure answer) t = settled answer t (f t) := by
  show EStateM.bind (change f) (fun _ => EStateM.pure answer) t = _
  cases outcome : f t with
  | error e =>
    rw [EStateM.bind, change_of_error outcome]
    rfl
  | ok t' =>
    rw [EStateM.bind, change_of_ok outcome]
    rfl

/-- Two changes are a single one where the second cannot fail after the first. -/
theorem change_bind (sure : ∀ t', f t = .ok t' → ∃ t'', g t' = .ok t'') :
    (change f >>= fun _ => change g) t = change (fun t => f t >>= g) t := by
  show EStateM.bind (change f) (fun _ => change g) t = _
  cases first : f t with
  | error e =>
    have failed : (f t >>= g) = .error e := by rw [first]; rfl
    rw [change_of_error failed, EStateM.bind, change_of_error first]
  | ok t' =>
    obtain ⟨t'', second⟩ := sure t' first
    have changed : (f t >>= g) = .ok t'' := by rw [first]; exact second
    rw [change_of_ok changed, EStateM.bind, change_of_ok first]
    exact change_of_ok second

theorem createFolders_eq (base : Location) (names : List Name) :
    createFolders base names = change fun t => Vault.storageError (t.createFolders base names) := by
  induction names generalizing base with
  | nil => rfl
  | cons name rest ih =>
    funext t
    rw [createFolders]
    show (match t.find? (base ++ [name]) with
      | some .folder => createFolders (base ++ [name]) rest
      | some (.file _) => throw (.storage (if rest = [] then .present else .notFolder))
      | none => _ : Steps Unit) t = _
    cases stands : t.find? (base ++ [name]) with
    | some e =>
      cases e with
      | folder => simp only [ih, change, FileTree.createFolders, stands]
      | file content =>
        simp only [change, FileTree.createFolders, stands]
        rfl
    | none =>
      have all : (Vault.storageError (t.createFolder (base ++ [name])) >>= fun t =>
          Vault.storageError (t.createFolders (base ++ [name]) rest)) =
          Vault.storageError (t.createFolders base (name :: rest)) := by
        rw [FileTree.createFolders, stands]
        cases t.createFolder (base ++ [name]) <;> rfl
      simp only [ih]
      rw [change_bind]
      · simp only [change, all]
      · -- Only here is anything changed, and in the new folder nothing stands that could stop the rest.
        intro t' made
        obtain ⟨-, -, puts⟩ := FileTree.createFolder_eq_ok (Vault.storageError_eq_ok_iff.1 made)
        simp only [Vault.storageError_eq_ok_iff]
        refine FileTree.createFolders_of_bare puts.here (fun inner => ?_) rest
        rw [puts.elsewhere (by simp), FileTree.find?_concat_of_absent stands]

theorem saveSettings_eq (v : Vault) (s : Settings) : saveSettings v s = change fun t => Vault.saveSettings t v s := by
  funext t
  unfold saveSettings
  show (ite _ _ _ : Steps Unit) t = _
  cases holds : t.holds v.settingsFolder with
  | true =>
    rw [if_neg (by decide)]
    simp only [change, Vault.saveSettings, holds]
    rfl
  | false =>
    show (change _ >>= fun _ => change _) t = _
    rw [change_bind]
    · simp only [change, Vault.saveSettings, holds]
      rfl
    · intro t' created
      simp only [Vault.storageError_eq_ok_iff] at created ⊢
      exact Vault.writeFile_of_createFolder created _

theorem editSettings_eq (v : Vault) (changes : List Settings.Change) :
    editSettings v changes = change fun t => Vault.editSettings t v changes := by
  funext t
  show EStateM.bind (ask fun t => Vault.loadSettings t v) (fun settings => saveSettings v _) t = _
  unfold EStateM.bind ask change Vault.editSettings
  simp only [saveSettings_eq]
  cases Vault.loadSettings t v <;> rfl

theorem setUp_eq (v : Vault) (now : Instant) : setUp v now = change fun t => Vault.setUp t v now := by
  funext t
  have rest : (prepare v >>= fun _ => saveSettings v (Settings.initial now)) =
      change fun t => Vault.prepare t v >>= fun t => Vault.saveSettings t v (Settings.initial now) := by
    funext t
    rw [saveSettings_eq]
    exact change_bind fun t' prepared => Vault.saveSettings_of_canSave (Vault.canSave_of_prepare prepared) _
  unfold setUp
  rw [rest]
  show (ite _ _ _ : Steps Unit) t = _
  cases holds : t.holds v.location with
  | true =>
    rw [if_neg (by decide)]
    simp only [change, Vault.setUp, holds]
    rfl
  | false =>
    have absent : t.find? v.location = none := FileTree.not_holds_iff.1 (by simp [holds])
    show (createFolders [] v.location >>= fun _ => change _) t = _
    rw [createFolders_eq, change_bind]
    · simp only [change, Vault.setUp, holds]
      rfl
    · intro t' made
      obtain ⟨t₁, prepared⟩ := Vault.prepare_of_createFolders absent (Vault.storageError_eq_ok_iff.1 made)
      obtain ⟨t₂, saved⟩ := Vault.saveSettings_of_canSave (Vault.canSave_of_prepare prepared) (Settings.initial now)
      exact ⟨t₂, bind_eq_ok_iff.2 ⟨t₁, prepared, saved⟩⟩

/-! ## What is left -/

/-- The files after some steps, whether they succeed or fail. -/
def after (steps : Steps α) (t : FileTree) : FileTree :=
  match steps t with
  | .ok _ t' => t'
  | .error _ t' => t'

theorem after_bind_pure {β : Type} (steps : Steps α) (f : α → β) (t : FileTree) :
    (steps >>= fun a => pure (f a)).after t = steps.after t := by
  show after (EStateM.bind steps fun a => EStateM.pure (f a)) t = _
  unfold after EStateM.bind
  cases steps t <;> rfl

theorem after_ask (f : FileTree → Except Error α) (t : FileTree) : (ask f).after t = t := by
  unfold after ask
  cases f t <;> rfl

theorem after_change_of_ok {t' : FileTree} (changed : f t = .ok t') : (change f).after t = t' := by
  rw [after, change_of_ok changed]

theorem after_change_of_error {e : Error} (failed : f t = .error e) : (change f).after t = t := by
  rw [after, change_of_error failed]

/-- A single change leaves what it has made, or what was there. -/
theorem after_change (f : FileTree → Except Error FileTree) (t : FileTree) :
    (change f).after t = t ∨ f t = .ok ((change f).after t) := by
  cases outcome : f t with
  | error e => exact .inl (after_change_of_error outcome)
  | ok t' => exact .inr (by rw [after_change_of_ok outcome])

theorem keeps_after_change (keeps : ∀ t', f t = .ok t' → t.Keeps t') : t.Keeps ((change f).after t) := by
  rcases after_change f t with same | changed
  · rw [same]
    exact .refl t
  · exact keeps _ changed

end Steps
end ReadingLog
