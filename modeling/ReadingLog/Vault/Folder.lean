import ReadingLog.Vault.Notes

/-!
# Walking folders

A folder as it is on a disk. Names are bytes there, which need not be text, and beside files and folders there are links, which
are not followed. The notes are listed by a walk through all folders that are not hidden.
-/

namespace ReadingLog

/-- The name of an entry on a disk: bytes without a slash, and not those of `.` or `..`. -/
structure RawName where
  bytes : List UInt8
  isName : bytes ≠ [] ∧ bytes ≠ [0x2E] ∧ bytes ≠ [0x2E, 0x2E] ∧ 0x2F ∉ bytes
  deriving DecidableEq

namespace RawName

/-- The name begins with a point. -/
def isHidden (n : RawName) : Bool := n.bytes.head? = some 0x2E

/-- The name as text, if it is UTF-8. -/
def text? (n : RawName) : Option String := String.fromUTF8? ⟨n.bytes.toArray⟩

end RawName

/-- What a folder holds, entry by entry. -/
inductive Folder where
  | empty
  | file (name : RawName) (others : Folder)
  | folder (name : RawName) (inside others : Folder)
  /-- A link, or anything else that is neither a file nor a folder. -/
  | special (name : RawName) (others : Folder)

namespace Folder

/-- The names of the entries. -/
def names : Folder → List RawName
  | empty => []
  | file name others => name :: others.names
  | folder name _ others => name :: others.names
  | special name others => name :: others.names

/-- The entries of a folder have different names, and so have those of every folder in it. -/
def Distinct : Folder → Prop
  | empty => True
  | file name others => name ∉ others.names ∧ others.Distinct
  | folder name inside others => name ∉ others.names ∧ inside.Distinct ∧ others.Distinct
  | special name others => name ∉ others.names ∧ others.Distinct

instance decideDistinct : (f : Folder) → Decidable f.Distinct
  | empty => isTrue trivial
  | file _ others => have := decideDistinct others; inferInstanceAs (Decidable (_ ∧ _))
  | folder _ inside others =>
    have := decideDistinct inside
    have := decideDistinct others
    inferInstanceAs (Decidable (_ ∧ _ ∧ _))
  | special _ others => have := decideDistinct others; inferInstanceAs (Decidable (_ ∧ _))

/-- The ways to the files, by the names of the folders and of the file itself. Hidden folders are not entered. -/
def walk : Folder → List (List RawName)
  | empty => []
  | file name others => [name] :: others.walk
  | folder name inside others => (if name.isHidden then [] else inside.walk.map (name :: ·)) ++ others.walk
  | special _ others => others.walk

/-- The path of a note, for the way to a file that is one. Every name on the way has to be text. -/
def notePath? (way : List RawName) : Option NotePath :=
  match way.mapM RawName.text? with
  | some names => if Vault.isNotePath ("/".intercalate names) then some ("/".intercalate names) else none
  | none => none

end Folder

/-- A folder whose entries have different names. -/
structure Directory where
  root : Folder
  distinct : root.Distinct

/-- The paths of the notes of a directory. -/
def Directory.notes (d : Directory) : List NotePath :=
  (d.root.walk.filterMap Folder.notePath?).mergeSort fun a b => decide (a ≤ b)

end ReadingLog
