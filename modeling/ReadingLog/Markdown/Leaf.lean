import ReadingLog.Markdown.Html
import ReadingLog.Markdown.Reference
import ReadingLog.Markdown.Container

/-!
# Leaf blocks

A leaf block holds text and no other blocks: a heading, a paragraph, code, raw HTML, a rule or the definition of a link. The
line that it begins with tells which one it is, and it takes in further lines as long as the open containers go on.
-/

namespace ReadingLog.Markdown

/-! ## What a line begins -/

/-- Text without the marks that may close a heading: a run of `#` at the end with a space before it. -/
def withoutClosingMarks (s : Text) : Text :=
  let body := (s.reverse.dropWhile (· = ' ')).reverse
  let before := (body.reverse.dropWhile (· = '#')).reverse
  match before.getLast? with
  | none => []
  | some last => if last = ' ' then (before.reverse.dropWhile (· = ' ')).reverse else body

/-- The level and the text of a heading that begins with its level in `#` marks. -/
def heading? (s : Text) : Option (Nat × Text) :=
  let level := (s.takeWhile (· = '#')).length
  let rest := s.drop level
  if 1 ≤ level ∧ level ≤ 6 ∧ rest.head?.all isSpacing then
    some (level, withoutClosingMarks (rest.dropWhile isSpacing))
  else none

/-- The level of the heading that a line under a paragraph makes of it. -/
def underline? (s : Text) : Option Nat :=
  match s with
  | [] => none
  | mark :: _ =>
    if isBlankLine (s.dropWhile (· = mark)) then
      if mark = '=' then some 1 else if mark = '-' then some 2 else none
    else none

/-- The mark that fences code and its number. No backtick follows a fence of backticks. -/
def fence? (s : Text) : Option (Char × Nat) :=
  match s with
  | [] => none
  | mark :: _ =>
    let length := (s.takeWhile (· = mark)).length
    if (mark = '~' ∨ mark = '`' ∧ '`' ∉ s.drop length) ∧ 3 ≤ length then some (mark, length) else none

/-- How a block of HTML ends. -/
inductive HtmlEnd where
  /-- With the line that has this text. -/
  | withText (text : Text)
  /-- Before a blank line. -/
  | beforeBlank
  deriving DecidableEq, Repr

/-- The end of the block of HTML that a line begins even below a paragraph. -/
def html? (s : Text) : Option HtmlEnd := do
  let inner ← ['<'].isPrefixOf? s
  match rawBlockEnd? inner with
  | some text => some (.withText text)
  | none => if beginsTagBlock inner then some .beforeBlank else none

/-- The end of the block of HTML that a line begins where no paragraph precedes: one whole tag is enough. -/
def anyHtml? (s : Text) : Option HtmlEnd :=
  html? s <|> (['<'].isPrefixOf? s).bind fun inner => if isWholeTag inner then some .beforeBlank else none

/-- What begins at a line that is not blank, by the line alone. -/
inductive Leaf where
  | indentedCode
  | html (stop : HtmlEnd)
  | rule
  | heading (level : Nat) (content : Text)
  | fencedCode (mark : Char) (length indent : Nat)
  | paragraph
  deriving DecidableEq, Repr

/-- What begins at a cursor. -/
def Leaf.ofCursor (c : Cursor) : Leaf :=
  let (indent, inner) := c.takeColumns 4
  if 4 ≤ indent then .indentedCode
  else match anyHtml? inner.ahead with
    | some stop => .html stop
    | none =>
      if isRule inner.ahead then .rule
      else match heading? inner.ahead with
        | some (level, content) => .heading level content
        | none =>
          match fence? inner.ahead with
          | some (mark, length) => .fencedCode mark length indent
          | none => .paragraph

/-! ## Which lines a leaf takes in

Each of these counts the lines, of those that follow the first one of a leaf, that belong to it. -/

/-- The cursor of a line after all open containers. -/
def inside? (containers : List Container) (line : Line) : Option Cursor :=
  Container.continueEvery? containers { ahead := line.text }

/-- Lines of indented code: four columns, or blank. -/
def indentedCount (containers : List Container) (lines : List Line) : Nat :=
  (lines.takeWhile fun line => (inside? containers line).any fun c =>
    let (taken, after) := c.takeColumns 4
    taken = 4 || after.atEnd).length

/-- A line ends fenced code: as many marks as began it, or more, and then spaces only. -/
def endsFence (mark : Char) (length indent : Nat) (c : Cursor) : Bool :=
  let (taken, after) := (c.takeColumns indent).2.takeColumns (4 - indent)
  let marks := (after.ahead.takeWhile (· = mark)).length
  taken < 4 - indent && length ≤ marks && (after.ahead.drop marks).all (· = ' ')

/-- Lines up to the one that ends a block, that one included. -/
def countThrough (containers : List Container) (isLast : Cursor → Bool) : List Line → Nat
  | [] => 0
  | line :: rest =>
    match inside? containers line with
    | none => 0
    | some c => if isLast c then 1 else countThrough containers isLast rest + 1

/-- Lines of raw HTML after the first one, `s`. -/
def htmlCount (containers : List Container) (s : Text) (lines : List Line) : HtmlEnd → Nat
  | .withText text =>
    if Text.contains text s then 0 else countThrough containers (fun c => Text.contains text c.ahead) lines
  | .beforeBlank => (lines.takeWhile fun line => (inside? containers line).any fun c => !isBlankLine c.ahead).length

/-- A list item at the start of a text may come right after a paragraph that it is not part of; where the paragraph's
    containers all go on, only if it is a bullet or number one and not empty before a blank line. -/
def beginsItemAfterText (isInside : Bool) (s : Text) (next : Option Line) : Bool :=
  match markerLength? s with
  | none => false
  | some (length, number?) =>
    let rest := s.drop length
    rest.head?.all (fun c => c = ' ' || c = '\t')
      && (!isInside
        || number?.all (· = 1) && !(isBlankLine rest && next.all fun line => isBlankLine line.text))

/-- A line ends the paragraph above it, since it is blank or begins another block. -/
def interrupts (isInside : Bool) (s : Text) (next : Option Line) : Bool :=
  s.isEmpty || isRule s || (heading? s).isSome || (fence? s).isSome || s.head? = some '>'
    || beginsItemAfterText isInside s next || (html? s).isSome

/-- The text of a line that goes on a paragraph, without the white space it begins with. A line may do so without going on
    the containers of the paragraph. -/
def continuation? (containers : List Container) (line : Line) (next : Option Line) : Option Text :=
  let (n, c) := Container.continueAll { ahead := line.text } containers
  let (taken, inner) := c.takeColumns 4
  if taken < 4 && interrupts (n = containers.length) inner.ahead next then none else some inner.skipSpaces

/-- The level of the heading that a line makes of the paragraph above it, within the same containers. -/
def underlineInside? (containers : List Container) (line : Line) : Option Nat :=
  (inside? containers line).bind fun c =>
    let (taken, inner) := c.takeColumns 4
    if taken < 4 then underline? inner.ahead else none

/-- The further lines of a paragraph, and the level of the heading that the line after them makes of it. -/
def paragraphLines (containers : List Container) : List Line → List Text × Option Nat
  | [] => ([], none)
  | line :: rest =>
    match underlineInside? containers line with
    | some level => ([], some level)
    | none =>
      match continuation? containers line rest.head? with
      | none | some [] => ([], none)
      | some s =>
        let (more, level?) := paragraphLines containers rest
        (s :: more, level?)

/-- The lines that the definition of a link could reach into. -/
def definitionLines (containers : List Container) : List Line → List Text
  | [] => []
  | line :: rest =>
    match continuation? containers line rest.head? with
    | none | some [] => []
    | some s => s :: definitionLines containers rest

/-- The label of the link definition at the start of a text, and how many of the lines after it belong to it. -/
def definitionAt? (containers : List Container) (s : Text) (lines : List Line) : Option (Text × Nat) := do
  let whole := ['\n'].intercalate (s :: definitionLines containers lines)
  let (label, rest) ← definition? whole
  let taken := whole.count '\n' - rest.count '\n'
  return (label, if rest.isEmpty then taken else taken - 1)

end ReadingLog.Markdown
