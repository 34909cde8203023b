import ReadingLog.FileTree
import ReadingLog.Settings

/-!
# Vaults

A vault is a folder of notes with a settings folder in it. This module sets vaults up, finds the vault that a folder belongs
to, and loads and saves settings.
-/

namespace ReadingLog

/-- A folder that is, or is to become, a vault: where it stands, and how it is called in messages. -/
structure Vault where
  location : Location
  shown : String
  deriving DecidableEq

namespace Vault

/-- The folder at a location, called by its path. -/
def standing (l : Location) : Vault := ⟨l, l.path⟩

/-- The name of the settings folder. -/
def settingsFolderName : Name := ⟨".readjour", by decide⟩

/-- The name of the settings file. -/
def settingsFileName : Name := ⟨"config.toml", by decide⟩

/-- Where the settings folder stands. -/
def settingsFolder (v : Vault) : Location := v.location ++ [settingsFolderName]

/-- Where the settings file stands. -/
def settingsFile (v : Vault) : Location := v.settingsFolder ++ [settingsFileName]

/-- A storage fault as an error. -/
def storageError {α : Type} : Except StorageFault α → Except Error α
  | .ok a => .ok a
  | .error fault => .error (.storage fault)

/-! ## Settings -/

/-- The settings of a vault. A folder without a settings file is no vault. -/
def loadSettings (t : FileTree) (v : Vault) : Except Error Settings :=
  match t.readText v.settingsFile with
  | .ok document =>
    match Settings.parse? document with
    | some settings => .ok settings
    | none => .error (.settings .unparsable)
  | .error .missing => .error (.notVault v.shown)
  | .error fault => .error (.storage fault)

/-- The tree with settings saved, in a new settings folder if there is none. -/
def saveSettings (t : FileTree) (v : Vault) (settings : Settings) : Except Error FileTree := do
  let t ← if t.holds v.settingsFolder then .ok t else storageError (t.createFolder v.settingsFolder)
  storageError (t.writeFile v.settingsFile (.text settings.render))

/-- The tree with the settings loaded, changed and saved. -/
def editSettings (t : FileTree) (v : Vault) (changes : List Settings.Change) : Except Error FileTree := do
  saveSettings t v (changes.foldl Settings.apply (← loadSettings t v))

/-! ## Setting up -/

/-- The folder has a settings folder. -/
def isInitialized (t : FileTree) (v : Vault) : Bool := t.isFolder v.settingsFolder

/-- The tree with a settings folder, where nothing of its name stands. -/
def prepare (t : FileTree) (v : Vault) : Except Error FileTree :=
  if t.holds v.settingsFolder then .error (.settings (.alreadyInitialized v.shown))
  else storageError (t.createFolder v.settingsFolder)

/-- The tree with a new vault, whose folder is created if nothing stands there. -/
def setUp (t : FileTree) (v : Vault) (now : Instant) : Except Error FileTree := do
  let t ← if t.holds v.location then .ok t else storageError (t.createFolders [] v.location)
  saveSettings (← prepare t v) v (Settings.initial now)

/-! ## Finding -/

/-- The folder that a path leads to, if it has a settings folder. -/
def at? (t : FileTree) (working : Location) (p : WrittenPath) : Option Vault :=
  match t.walk? (p.base working) p.parts with
  | some l => if isInitialized t ⟨l, p.text⟩ then some ⟨l, p.text⟩ else none
  | none => none

/-- The innermost vault on the way along a path. -/
def discoverAlong (t : FileTree) (working : Location) (start : String) : Except Error Vault :=
  match (WrittenPath.ofString start).upward.findSome? (at? t working) with
  | some v => .ok v
  | none => .error (.notVault start)

/-- The innermost vault that a location belongs to. -/
def discoverFrom (t : FileTree) (start : Location) : Except Error Vault := discoverAlong t start start.path

/-- The vault that the environment names, which has to be one, or else the one that the working folder belongs to. -/
def discover (t : FileTree) (working : Location) (named : Option String) : Except Error Vault :=
  match named with
  | some path =>
    let v : Vault := ⟨working.resolve path, path⟩
    if isInitialized t v then .ok v else .error (.settings (.rootWithoutVault path))
  | none => discoverFrom t working

end Vault
end ReadingLog
