import ReadingLog.Markdown.Leaf

/-!
# Outlines

`Outline.ofText` reads the block structure of a note, line by line: which containers open and close where, and which
headings and paragraphs stand in them. Definitions of links are noted for reading headings later.
-/

namespace ReadingLog.Markdown

/-- Characters of a note, from `start` up to but not including `stop`. -/
structure Span where
  start : Nat
  stop : Nat
  deriving DecidableEq, Repr

namespace Span

/-- The characters of a text within a span. -/
def slice (span : Span) (s : Text) : Text := (s.drop span.start).take (span.stop - span.start)

end Span

/-- The blocks whose place in a note matters, and all others as one. -/
inductive Tag where
  | heading (level : Nat)
  | paragraph
  | item
  | quote
  /-- Another block, such as a list, or a piece of text that is set off, such as a link. -/
  | other
  deriving DecidableEq, Repr

/-- The tag of a container. -/
def Container.tag : Container → Tag
  | .quote => .quote
  | .item .. => .item

/-- What happens at a place in a note. -/
inductive Mark where
  | enter (tag : Tag) (place : Nat)
  | leave (tag : Tag) (place : Nat)
  | heading (level : Nat) (content : Text) (span : Span)
  | paragraph (span : Span)
  deriving DecidableEq, Repr

/-- The outline of the lines read so far: the containers that are open, outermost first, the labels that are defined, and
    what happened, latest first. -/
structure Outline where
  containers : List Container
  labels : List Text
  marks : List Mark
  deriving DecidableEq, Repr

namespace Outline

/-- The outline of no lines. -/
def empty : Outline := ⟨[], [], []⟩

/-- The outline with one more mark. -/
def note (o : Outline) (mark : Mark) : Outline := { o with marks := mark :: o.marks }

/-- The outline with only `n` containers left open; the others end at a place, innermost first. -/
def closeTo (o : Outline) (n place : Nat) : Outline :=
  { o with
    containers := o.containers.take n
    marks := ((o.containers.drop n).map fun container => .leave container.tag place) ++ o.marks }

/-- The outline after something has been read within the open containers. -/
def filled (o : Outline) : Outline := { o with containers := o.containers.map Container.filled }

/-- The outline with a container that opens in a line starting at a place. -/
def enter (o : Outline) (lineStart : Nat) (opening : Opening) : Outline :=
  { o.filled with
    containers := o.filled.containers ++ [opening.container]
    marks := .enter opening.container.tag (lineStart + opening.place) :: o.marks }

/-- The innermost container is an item with nothing in it. -/
def endsBare (o : Outline) : Bool := o.containers.getLast?.any (· matches .item _ true)

/-- The place where the lines of a block end, of which `count` follow the first one. -/
def stopAfter (line : Line) (rest : List Line) (count : Nat) : Nat :=
  ((rest.take count).getLast?.getD line).stop

/-- The paragraph that begins with a text at the end of a line, or the heading that it turns out to be; definitions of links
    come off its start. It comes with the number of further lines taken in. -/
def readText (o : Outline) (s : Text) (line : Line) (rest : List Line) : Outline × Nat :=
  match definitionAt? o.containers s rest with
  | some (label, count) =>
    let o := { o with labels := label :: o.labels }
    match _h : rest.drop count with
    | [] => (o, count)
    | next :: later =>
      match continuation? o.containers next later.head? with
      | none => (o, count)
      | some s =>
        let (o, taken) := o.readText s next later
        (o, count + 1 + taken)
  | none =>
    let (more, level?) := paragraphLines o.containers rest
    let start := line.start + (line.text.length - s.length)
    match level? with
    | some level =>
      let count := more.length + 1
      (o.note (.heading level (['\n'].intercalate (s :: more)) ⟨start, stopAfter line rest count⟩), count)
    | none => (o.note (.paragraph ⟨start, stopAfter line rest more.length⟩), more.length)
termination_by rest.length
decreasing_by
  have := congrArg List.length ‹rest.drop count = next :: later›
  simp only [List.length_drop, List.length_cons] at this
  omega

/-- The leaf block that begins at a cursor in a line, with the number of further lines it takes in. -/
def readLeaf (o : Outline) (c : Cursor) (line : Line) (rest : List Line) : Outline × Nat :=
  match Leaf.ofCursor c with
  | .indentedCode => (o, indentedCount o.containers rest)
  | .html stop => (o, htmlCount o.containers (c.takeColumns 4).2.ahead rest stop)
  | .rule => (o, 0)
  | .heading level content =>
    let start := line.start + (line.text.length - (c.takeColumns 4).2.ahead.length)
    (o.note (.heading level content ⟨start, line.stop⟩), 0)
  | .fencedCode mark length indent => (o, countThrough o.containers (endsFence mark length indent) rest)
  | .paragraph => o.readText (c.takeColumns 4).2.skipSpaces line rest

/-- The outline after one more block or blank line, with the number of lines after `line` that belong to it. -/
def step (o : Outline) (line : Line) (rest : List Line) : Outline × Nat :=
  let (n, inside) := Container.continueAll { ahead := line.text } o.containers
  let (opened, c) := openings (line.text.length + 1) inside
  let continued := o.closeTo n line.start
  let o := opened.foldl (fun o opening => o.enter line.start opening) continued
  if isBlankLine c.ahead then
    if opened.isEmpty && o.endsBare then (o.closeTo (n - 1) line.start, 0) else (o, 0)
  else o.filled.readLeaf c line rest

/-- The outline after some lines. -/
def read (o : Outline) : List Line → Outline
  | [] => o
  | line :: rest =>
    let (o, taken) := o.step line rest
    o.read (rest.drop taken)
termination_by lines => lines.length
decreasing_by
  simp only [List.length_drop, List.length_cons]
  omega

/-- The outline of a whole note, with every container closed at its end. -/
def ofText (s : Text) : Outline := (empty.read (linesOf s)).closeTo 0 s.length

end Outline
end ReadingLog.Markdown
