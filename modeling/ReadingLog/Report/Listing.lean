import ReadingLog.Event
import ReadingLog.DateLayout.Reading

/-!
# Listings

Events as lines for a reader: the date with the day first, the action and the book. Dates that a reader gives are read in the
same layout.
-/

namespace ReadingLog

/-- Day, month and year joined by hyphens. -/
def DateLayout.dayFirst : DateLayout := ⟨"DD-MM-YYYY", by decide +kernel⟩

/-- The date that a reader gives; any text that is none is refused as it stands. -/
def Date.ofArgument (text : String) : Except Error Date :=
  match DateLayout.dayFirst.parse? text.toList with
  | some date => .ok date
  | none => .error (.invalidDate text)

namespace Event

/-- An event on a line of its own. -/
def line (e : Event) : Text :=
  DateLayout.dayFirst.format e.date ++ [' ', ' '] ++ e.action.toText ++ [' ', ' '] ++ e.book.toList ++ ['\n']

end Event

/-- Events line by line, or a remark where there is none. -/
def listing (events : List Event) : String :=
  if events.isEmpty then "No reading journeys found" else String.ofList (events.flatMap Event.line)

end ReadingLog
