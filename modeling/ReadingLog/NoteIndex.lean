import ReadingLog.Event

/-!
# Finding notes

`NoteIndex.resolve?` finds the note that a link target means: by its path, or by its title among the notes of the vault.
-/

namespace ReadingLog

/-- The notes of a vault, in a fixed order. -/
structure NoteIndex where
  notes : List NotePath
  deriving DecidableEq

namespace NoteIndex

/-- A target without any `./` that it begins with. -/
def dropHere : Text → Text
  | '.' :: '/' :: target => dropHere target
  | target => target

/-- A target that ends in the extension of notes, which is added where it lacks. -/
def withExtension (target : Text) : Text :=
  if ['.', 'm', 'd'].isSuffixOf target then target else target ++ ['.', 'm', 'd']

/-- How far a note is from the one that refers to it: outside of its folder or not, then the length of the path. -/
def distance (source note : NotePath) : Bool × Nat :=
  (note.folder != source.folder, note.utf8ByteSize)

/-- The first distance is strictly less: inside of the folder before outside, then the shorter path. -/
def isNearer (a b : Bool × Nat) : Bool := (!a.1 && b.1) || (a.1 == b.1 && a.2 < b.2)

/-- The nearest of some notes; of equally near ones the first. -/
def nearest? (source : NotePath) : List NotePath → Option NotePath
  | [] => none
  | note :: notes =>
    match nearest? source notes with
    | none => some note
    | some other => if isNearer (distance source other) (distance source note) then some other else some note

/-- The note that a target in a source note means. A target with a folder is a path; any other one is a title, whose case
    in ASCII letters does not matter. -/
def resolve? (index : NoteIndex) (target : Text) (source : NotePath) : Option NotePath :=
  let target := dropHere target.trim
  if target.isEmpty then none
  else if '/' ∈ target then index.notes.find? fun note => note.toList = withExtension target
  else
    let title := target.dropSuffix ['.', 'm', 'd']
    nearest? source (index.notes.filter fun note => Text.sameIgnoringCase note.title title)

end NoteIndex
end ReadingLog
