import ReadingLog.Markdown.Event

/-!
# Sections

A section runs from a heading to the next heading of the same or a higher level. Its lines are the first lines of its list
items, without their markers, and the lines of its paragraphs outside of lists. They are cut from the note as it is written,
so that links in them stay as they are, and given out one by one, as the events of the note go by.
-/

namespace ReadingLog

/-- What follows the marker of a list item and the spaces after it; text without a marker is kept. -/
def afterMarker (line : Text) : Text :=
  match line with
  | '-' :: ' ' :: rest => rest
  | '*' :: ' ' :: rest => rest
  | '+' :: ' ' :: rest => rest
  | _ =>
    let digits := line.takeWhile Char.isDigit
    match digits, line.drop digits.length with
    | _ :: _, '.' :: ' ' :: rest => rest
    | _ :: _, ')' :: ' ' :: rest => rest
    | _, _ => line

/-- What follows the box of a task; text without a box is kept. -/
def afterTaskBox (line : Text) : Text :=
  match line with
  | '[' :: ' ' :: ']' :: ' ' :: rest => rest
  | '[' :: 'x' :: ']' :: ' ' :: rest => rest
  | '[' :: 'X' :: ']' :: ' ' :: rest => rest
  | _ => line

/-- The words of an item: its first line without marker, task box and the white space around. -/
def itemText (line : Text) : Text := (afterTaskBox (afterMarker line.trimStart).trimStart).trim

/-- The line that an item gives: its words, if there are any. -/
def itemLines (source : Text) : List Text :=
  let words := itemText ((Text.lines source).headD [])
  if words.isEmpty then [] else [words]

/-- The lines that a paragraph gives: those with words, trimmed. -/
def paragraphWords (source : Text) : List Text := ((Text.lines source).map Text.trim).filter (!·.isEmpty)

/-- What is known of the sections while the events of a note go by: the level of the wanted section, inside of one; the
    level of the heading being read, and its text; and how many list items are open. -/
structure SectionReader where
  level : Option Nat := none
  heading : Option Nat := none
  title : Text := []
  depth : Nat := 0
  deriving DecidableEq, Repr

namespace SectionReader

/-- A heading ends: one of no lower rank ends the wanted section, and one with the wanted title begins it. -/
def closeHeading (wanted : Text) (r : SectionReader) : SectionReader :=
  match r.heading with
  | none => r
  | some closed =>
    let level := if r.level.any (closed ≤ ·) then none else r.level
    { r with
      heading := none
      level := if level.isNone ∧ r.title.trim = wanted.trim then some closed else level }

/-- What is known after an event. -/
def after (wanted : Text) (r : SectionReader) : Markdown.Event → SectionReader
  | .start (.heading level) _ => { r with heading := some level, title := [] }
  | .stop (.heading _) => r.closeHeading wanted
  | .text s | .code s => if r.heading.isSome then { r with title := r.title ++ s } else r
  | .start .item _ => { r with depth := r.depth + 1 }
  | .stop .item => { r with depth := r.depth - 1 }
  | _ => r

/-- The lines that an event gives. -/
def gives (content : Text) (r : SectionReader) : Markdown.Event → List Text
  | .start .item span => if r.level.isSome then itemLines (span.slice content) else []
  | .start .paragraph span => if r.level.isSome ∧ r.depth = 0 then paragraphWords (span.slice content) else []
  | _ => []

/-- The lines that events give in their order. -/
def lines (content wanted : Text) : SectionReader → List Markdown.Event → List Text
  | _, [] => []
  | r, event :: events => r.gives content event ++ lines content wanted (r.after wanted event) events

end SectionReader

/-- Lines given out one by one: of a note and for a wanted heading, after some events, with the lines found so far that are
    still to be given. -/
structure SectionLines where
  content : Text
  wanted : Text
  events : List Markdown.Event
  reader : SectionReader := {}
  pending : List Text := []
  deriving DecidableEq, Repr

namespace SectionLines

/-- The next line of the queue or, when it is empty, of the next events that give any, with what remains after it. -/
def nextFrom (content wanted : Text) : List Markdown.Event → SectionReader → List Text → Option (Text × SectionLines)
  | events, reader, line :: pending => some (line, ⟨content, wanted, events, reader, pending⟩)
  | [], _, [] => none
  | event :: events, reader, [] => nextFrom content wanted events (reader.after wanted event) (reader.gives content event)

/-- The next line, and what remains after it. -/
def next? (s : SectionLines) : Option (Text × SectionLines) := nextFrom s.content s.wanted s.events s.reader s.pending

/-- The lines to come: those that wait, then those of the events. -/
def rest (s : SectionLines) : List Text := s.pending ++ s.reader.lines s.content s.wanted s.events

theorem rest_nextFrom (content wanted : Text) (events : List Markdown.Event) (reader : SectionReader) (pending : List Text) :
    match nextFrom content wanted events reader pending with
    | some (line, s) => pending ++ reader.lines content wanted events = line :: s.rest
    | none => pending ++ reader.lines content wanted events = [] := by
  fun_induction nextFrom content wanted events reader pending with
  | case1 => rfl
  | case2 => rfl
  | case3 event events reader ih => exact ih

theorem rest_eq_cons_of_next? {s later : SectionLines} {line : Text} (next : s.next? = some (line, later)) :
    s.rest = line :: later.rest := by
  have step := rest_nextFrom s.content s.wanted s.events s.reader s.pending
  rw [← next?, next] at step
  exact step

theorem rest_eq_nil_of_next? {s : SectionLines} (done : s.next? = none) : s.rest = [] := by
  have step := rest_nextFrom s.content s.wanted s.events s.reader s.pending
  rw [← next?, done] at step
  exact step

/-- The lines given until there are no more. -/
def toList (s : SectionLines) : List Text :=
  match _next : s.next? with
  | some (line, later) => line :: later.toList
  | none => []
termination_by s.rest.length
decreasing_by
  rw [rest_eq_cons_of_next? _next]
  exact Nat.lt_succ_self _

theorem toList_eq_rest (s : SectionLines) : s.toList = s.rest := by
  fun_induction toList s with
  | case1 s line later next ih => rw [ih, rest_eq_cons_of_next? next]
  | case2 s done => rw [rest_eq_nil_of_next? done]

end SectionLines

/-- The lines under a heading of a note. -/
def sectionLines (content wanted : Text) : List Text :=
  SectionLines.toList { content, wanted, events := Markdown.eventsOf content }

end ReadingLog
