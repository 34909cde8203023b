import ReadingLog.Markdown.Outline
import ReadingLog.Markdown.Inline

/-!
# Reading events

A note as a sequence of events: blocks start and stop, well nested, and headings have their text in between as a reader of
the rendered note sees it.
-/

namespace ReadingLog.Markdown

/-- One event in reading a note. A block that starts comes with the characters that it stands on. -/
inductive Event where
  | start (tag : Tag) (span : Span)
  | stop (tag : Tag)
  | text (text : Text)
  | code (text : Text)
  /-- Anything else, such as a line break. -/
  | other
  deriving DecidableEq, Repr

/-- A piece of text as an event. -/
def Piece.event : Piece → Event
  | .text s => .text s
  | .code s => .code s

/-- The events of marks in order, and the places where containers stop that do not start among them. -/
def Mark.events (isDefined : Text → Bool) : List Mark → List Event × List Nat
  | [] => ([], [])
  | .enter tag place :: marks =>
    let (later, stops) := events isDefined marks
    (.start tag ⟨place, stops.headD place⟩ :: later, stops.drop 1)
  | .leave tag place :: marks =>
    let (later, stops) := events isDefined marks
    (.stop tag :: later, place :: stops)
  | .heading level content span :: marks =>
    let (later, stops) := events isDefined marks
    (.start (.heading level) span :: (inlinePieces isDefined content).map Piece.event
      ++ .stop (.heading level) :: later, stops)
  | .paragraph span :: marks =>
    let (later, stops) := events isDefined marks
    (.start .paragraph span :: .stop .paragraph :: later, stops)

/-- The events in reading a note. -/
def eventsOf (s : Text) : List Event :=
  let outline := Outline.ofText s
  (Mark.events outline.labels.contains outline.marks.reverse).1

end ReadingLog.Markdown
