import ReadingLog.Section
import ReadingLog.NoteDate
import ReadingLog.NoteIndex
import ReadingLog.Link
import ReadingLog.Template.PatternSet

/-!
# Events in notes

The lines under a heading of a note become events. In a book's own note every line carries a date, and the book is the note.
In a daily note the date is that of the note, and every line names a book.
-/

namespace ReadingLog

/-- A note: its path and what is written in it. -/
structure Note where
  path : NotePath
  content : String
  deriving DecidableEq, Repr

namespace Note

/-- The lines under a heading. -/
def linesUnder (note : Note) (heading : String) : List Text := sectionLines note.content.toList heading.toList

end Note

/-- How to read the notes of books. -/
structure BookLog where
  patterns : PatternSet
  heading : String
  deriving DecidableEq

namespace BookLog

/-- The event that a line of a book's note records. -/
def event? (log : BookLog) (path : NotePath) (line : Text) : Option Event := do
  let found ← log.patterns.match? line
  return ⟨found.action, ← found.date, path⟩

/-- The events in a book's note. -/
def extract (log : BookLog) (note : Note) : History :=
  History.ofEvents ((note.linesUnder log.heading).filterMap (log.event? note.path))

end BookLog

/-- How to read daily notes. -/
structure DayLog where
  patterns : PatternSet
  heading : String
  layout : DateLayout
  folder : Option String
  deriving DecidableEq

namespace DayLog

/-- The date of a daily note; any other note has none. -/
def date? (log : DayLog) (path : NotePath) : Option Date := noteDate? log.layout log.folder path

/-- The event that a line of a daily note records; a reference to no note of the vault is passed over. -/
def event? (log : DayLog) (index : NoteIndex) (path : NotePath) (date : Date) (line : Text) : Option Event := do
  let found ← log.patterns.match? line
  return ⟨found.action, date, ← index.resolve? (linkTarget (← found.book)) path⟩

/-- The events in a daily note. -/
def extract (log : DayLog) (index : NoteIndex) (note : Note) : History :=
  match log.date? note.path with
  | none => ∅
  | some date => History.ofEvents ((note.linesUnder log.heading).filterMap (log.event? index note.path date))

end DayLog
end ReadingLog
