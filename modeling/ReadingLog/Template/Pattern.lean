import ReadingLog.Template.Expression
import ReadingLog.DateLayout.Reading
import ReadingLog.DateLayout.Candidates
import ReadingLog.Event

/-!
# Patterns

A pattern is a template that uses each placeholder as its kind asks: every required one, and none but `{*}` twice.
`Pattern.compile` reports the first fault otherwise, and has the regular expression read that the template is written out as.
`Pattern.match?` reads a whole line by the preferred split of its segments: the numbers must be positions and a date must be one
in the pattern's layout.
-/

namespace ReadingLog.Template

/-- What a line records. -/
structure Match where
  action : Action
  /-- The reference to the book, in a day's note. -/
  book : Option Text
  /-- The date of the line, in a book's note. -/
  date : Option Date
  deriving DecidableEq

/-- The first fault in the use of placeholders: a required one that is missing, else one that stands twice. -/
def fault? (kind : Kind) (template : String) : Option Error :=
  let segments := Segment.ofTemplate kind template.toList
  match kind.required.find? fun p => Segment.count p segments = 0 with
  | some p => some (.missingPlaceholder template p.name)
  | none =>
    segments.findSome? fun
      | .slot p =>
        if p ≠ .anything ∧ 1 < Segment.count p segments then some (.duplicatePlaceholder template p.name) else none
      | .literal _ => none

end Template

/-- A template without faults, and the layout of its dates. -/
structure Pattern where
  kind : Template.Kind
  template : String
  layout : DateLayout
  faultless : Template.fault? kind template = none
  deriving DecidableEq

namespace Pattern

open Template

/-- The pattern of a template, with dates in the default layout. Of an expression that is not read, the template is told. -/
def compile (template : String) (kind : Kind) : Except Error Pattern :=
  match h : fault? kind template with
  | some fault => .error fault
  | none =>
    match Expression.ofText? (Expression.spell (Segment.ofTemplate kind template.toList)) with
    | some _ => .ok ⟨kind, template, DateLayout.iso, h⟩
    | none => .error (.unusableTemplate template)

/-- The pattern with another layout for its dates. -/
def withLayout (p : Pattern) (layout : DateLayout) : Pattern := { p with layout }

/-- The segments of the template. -/
def segments (p : Pattern) : List Segment := Segment.ofTemplate p.kind p.template.toList

/-- The date of a piece. After a slot for anything, the piece may begin with text that is no part of the date; the date
    is then the first candidate that ends the piece and is spelled as the layout spells it. -/
def date? (p : Pattern) (piece : Text) : Option Date :=
  let piece := piece.trim
  match p.layout.parse? piece with
  | some date => some date
  | none =>
    if Segment.dateFollowsAnything p.segments then
      ((p.layout.candidates piece).filter (·.isSuffixOf piece)).findSome? fun candidate =>
        (p.layout.parse? candidate).filter fun date => p.layout.format date = candidate
    else none

/-- The page that progress starts from, none where the template has no slot for it. -/
def start? (p : Pattern) (pieces : List Text) : Option (Option Position) :=
  match Segment.piece? .startPage p.segments pieces with
  | some piece => (Position.page? piece).map some
  | none => some none

/-- The action that the pieces of a line give. -/
def action? (p : Pattern) (pieces : List Text) : Option Action :=
  match p.kind.purpose with
  | .started => some .started
  | .finished => some .finished
  | .abandoned => some .abandoned
  | .progress => do
    let start ← p.start? pieces
    let stop ← (Segment.piece? .endPage p.segments pieces).bind Position.page?
    return .progress start stop
  | .relativeProgress => do
    let stop ← (Segment.piece? .finish p.segments pieces).bind Position.percent?
    return .progress none stop

/-- What the pieces of a line record. -/
def matchOf? (p : Pattern) (pieces : List Text) : Option Match := do
  let action ← p.action? pieces
  let date ← match p.kind.log with
    | .book => ((Segment.piece? .date p.segments pieces).bind p.date?).map some
    | .day => some none
  return ⟨action, (Segment.piece? .book p.segments pieces).map Text.trim, date⟩

/-- What a whole line records by this pattern. -/
def match? (p : Pattern) (line : Text) : Option Match := (Segment.preferred? p.segments line).bind p.matchOf?

end Pattern
end ReadingLog
