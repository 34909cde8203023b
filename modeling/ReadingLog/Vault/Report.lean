import ReadingLog.Vault.Notes

/-!
# Reports

What a vault tells about reading: all events of its notes in the order of their dates, or those of one book or some days.
Every template that does not compile is passed over and reported.
-/

namespace ReadingLog

/-- How both logs of a vault are read. -/
structure Logs where
  day : DayLog
  book : BookLog
  deriving DecidableEq

namespace Logs

/-- The logs by the settings of a vault, whose layouts of dates have to be valid. -/
def ofSettings (s : Settings) : Except Error Logs := do
  let dayLayout ← s.daily.layout
  let bookLayout ← s.books.layout
  return ⟨⟨s.daily.templates.patterns .day dayLayout, s.daily.heading, dayLayout, s.folder⟩,
    ⟨s.books.templates.patterns .book bookLayout, s.books.heading⟩⟩

/-- The templates of both logs that did not compile. -/
def failures (logs : Logs) : List Template.Failure := logs.day.patterns.failures ++ logs.book.patterns.failures

/-- The events of a note: those it has as a daily note, then those it has as the note of a book. -/
def extract (logs : Logs) (index : NoteIndex) (note : Note) : History := logs.day.extract index note ++ logs.book.extract note

end Logs

/-- Which events are asked for: those of a book, which is given by a reference, from one day to another. -/
structure Query where
  book : Option String
  first : Option Date
  last : Option Date
  deriving DecidableEq

namespace Query

/-- Every event. -/
def everything : Query := ⟨none, none, none⟩

/-- The note of the book asked for, if one is. -/
def book? (q : Query) (index : NoteIndex) : Except Error (Option NotePath) :=
  match q.book with
  | none => .ok none
  | some reference =>
    match index.resolve? (linkTarget reference.toList) "" with
    | some path => .ok (some path)
    | none => .error (.nothingFound (.unknownBook reference))

/-- An event is asked for, given the note of the book. -/
def wants (q : Query) (book : Option NotePath) (e : Event) : Bool :=
  book.all (· = e.book) && q.first.all (· ≤ e.date) && q.last.all (e.date ≤ ·)

end Query

/-- The events asked for, the books they are about, and the templates that did not compile. -/
structure Report where
  events : List Event
  books : List NotePath
  failures : List Template.Failure
  deriving DecidableEq

namespace Report

/-- The report on notes in their order. -/
def ofNotes (logs : Logs) (index : NoteIndex) (q : Query) (book : Option NotePath) (notes : List Note) : Report :=
  let found := (notes.foldl (fun h note => h ++ logs.extract index note) (∅ : History)).events
  let kept := History.ofEvents (found.filter (q.wants book))
  ⟨kept.events.mergeSort fun a b => decide (a.date ≤ b.date), kept.books, logs.failures⟩

end Report

/-- How many templates compile, and which do not. -/
structure TemplateCheck where
  compiled : Nat
  failures : List Template.Failure
  deriving DecidableEq

namespace Vault

/-- The check of all templates of a vault. It reads no note, but the layouts of dates have to be valid. -/
def check (t : FileTree) (v : Vault) : Except Error TemplateCheck := do
  let settings ← loadSettings t v
  let daily := settings.daily.templates.patterns .day (← settings.daily.layout)
  let books := settings.books.templates.patterns .book (← settings.books.layout)
  return ⟨daily.patterns.length + books.patterns.length, daily.failures ++ books.failures⟩

/-- The report on a vault. Every note has to be readable. -/
def report (t : FileTree) (v : Vault) (q : Query) : Except Error Report := do
  let logs ← Logs.ofSettings (← loadSettings t v)
  let index : NoteIndex := ⟨notes t v⟩
  let book ← q.book? index
  return Report.ofNotes logs index q book (← (noteFiles t v).mapM noteOf)

end Vault
end ReadingLog
