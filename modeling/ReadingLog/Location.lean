import ReadingLog.Text.Basic

/-!
# Locations

Where a file or folder stands: the names of the folders on the way from the top, and its own name last.
-/

namespace ReadingLog

/-- A text can name a file or folder. -/
def IsName (s : String) : Prop := s ≠ "" ∧ s ≠ "." ∧ s ≠ ".." ∧ '/' ∉ s.toList

instance (s : String) : Decidable (IsName s) := inferInstanceAs (Decidable (_ ∧ _ ∧ _ ∧ _))

/-- The name of a file or folder. -/
structure Name where
  text : String
  isName : IsName text
  deriving DecidableEq

namespace Name

/-- The name begins with a point, which hides it. -/
def isHidden (n : Name) : Bool := n.text.toList.head? = some '.'

end Name

/-- The names from the top down; the top itself has none. -/
abbrev Location := List Name

namespace Location

/-- The location after one part of a path: an empty part and `.` stay, `..` goes up, and a name goes down. -/
def follow (l : Location) (part : Text) : Location :=
  if part = ['.', '.'] then l.dropLast
  else if h : IsName (String.ofList part) then l ++ [⟨String.ofList part, h⟩]
  else l

/-- The location that a path means, read from a base; a path that begins with `/` is read from the top. -/
def resolve (base : Location) (path : String) : Location :=
  (path.toList.splitOn '/').foldl follow (if path.toList.head? = some '/' then [] else base)

/-- The names joined by `/`. -/
def relativePath (l : Location) : String := "/".intercalate (l.map Name.text)

/-- The path from the top. -/
def path (l : Location) : String := "/" ++ l.relativePath

end Location

/-- A path as it is written, part by part: from the top, or from a working folder. -/
structure WrittenPath where
  isAbsolute : Bool
  parts : List Text
  deriving DecidableEq

namespace WrittenPath

/-- A piece of a path between slashes counts as a part of it, unless it is empty or `.`. -/
def isPart (piece : Text) : Bool := piece ≠ [] && piece ≠ ['.']

/-- The parts of a path among its pieces between slashes. A `.` that the path begins with is one too. -/
def partsOf (pieces : List Text) : List Text :=
  (if pieces.head? = some ['.'] then [['.']] else []) ++ pieces.filter isPart

/-- A path read from its written form. -/
def ofString (path : String) : WrittenPath := ⟨path.toList.head? = some '/', partsOf (path.toList.splitOn '/')⟩

/-- The written form. -/
def text (p : WrittenPath) : String := (if p.isAbsolute then "/" else "") ++ "/".intercalate (p.parts.map String.ofList)

/-- Where the path starts. -/
def base (p : WrittenPath) (working : Location) : Location := if p.isAbsolute then [] else working

/-- The path, and the paths above it with ever fewer of its parts. -/
def upward (p : WrittenPath) : List WrittenPath :=
  ((List.range (p.parts.length + 1)).map fun n => { p with parts := p.parts.take n }).reverse

end WrittenPath
end ReadingLog
