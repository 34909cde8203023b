import ReadingLog.Vault.Basic
import ReadingLog.Extraction

/-!
# Notes of a vault

The notes of a vault are its Markdown files outside of hidden folders, in the order of their paths.
-/

namespace ReadingLog

namespace Vault

/-- A path is that of a note: it ends in `.md`. -/
def isNotePath (path : String) : Bool := ['.', 'm', 'd'].isSuffixOf path.toList

/-- The file of a note, for an entry that is one of a vault: its path within the vault, and what it holds. -/
def noteFile? (v : Vault) (entry : Location × Entry) : Option (NotePath × Content) :=
  match v.location.isPrefixOf? entry.1, entry.2 with
  | some inner, .file content =>
    if isNotePath (Location.relativePath inner) && !inner.dropLast.any Name.isHidden then
      some (Location.relativePath inner, content)
    else none
  | _, _ => none

/-- The files of all notes, in the order of their paths. -/
def noteFiles (t : FileTree) (v : Vault) : List (NotePath × Content) :=
  (t.entries.filterMap v.noteFile?).mergeSort fun a b => decide (a.1 ≤ b.1)

/-- The paths of all notes. -/
def notes (t : FileTree) (v : Vault) : List NotePath := (noteFiles t v).map Prod.fst

/-- The content of a note, which is empty where nothing stands. -/
def readNote (t : FileTree) (v : Vault) (path : NotePath) : Except Error String :=
  let l := v.location.resolve path
  if t.holds l then storageError (t.readText l) else .ok ""

/-- A note read from its file. -/
def noteOf : NotePath × Content → Except Error Note
  | (path, .text content) => .ok ⟨path, content⟩
  | (_, .binary _) => .error (.storage .notText)

end Vault
end ReadingLog
