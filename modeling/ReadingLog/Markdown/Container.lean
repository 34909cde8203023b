import ReadingLog.Markdown.Cursor

/-!
# Containers

Quotes and list items hold other blocks. A line continues the open containers from the outermost on: a quote by its mark,
an item by its indentation. After that a line may open further containers.
-/

namespace ReadingLog.Markdown

/-- A block that holds others. -/
inductive Container where
  | quote
  /-- An item of a list whose content is indented by some columns; `isBare` while nothing but its marker has been read. -/
  | item (indent : Nat) (isBare : Bool)
  deriving DecidableEq, Repr

namespace Container

/-- The cursor after what a line needs to continue the container. A blank line continues an item. -/
def continue? (c : Cursor) : Container → Option Cursor
  | quote => (c.takeColumns 3).2.quoteMark?
  | item indent _ =>
    let (taken, after) := c.takeColumns indent
    if taken = indent ∨ after.atEnd then some after else none

/-- How many containers from the outermost on a line continues, and the cursor after them. -/
def continueAll (c : Cursor) : List Container → Nat × Cursor
  | [] => (0, c)
  | container :: inner =>
    match container.continue? c with
    | none => (0, c)
    | some after =>
      let (n, last) := continueAll after inner
      (n + 1, last)

/-- The cursor after all the containers, for a line that continues every one of them. -/
def continueEvery? (containers : List Container) (c : Cursor) : Option Cursor :=
  let (n, after) := continueAll c containers
  if n = containers.length then some after else none

/-- The container with something more than its marker in it. -/
def filled : Container → Container
  | quote => quote
  | item indent _ => item indent false

end Container

/-- A line that separates: three or more of one mark, with nothing but spaces and tabs between them. -/
def isRule (s : Text) : Bool :=
  match s with
  | [] => false
  | mark :: _ =>
    (mark = '*' || mark = '-' || mark = '_') && s.all (fun c => c = mark || c = ' ' || c = '\t')
      && 3 ≤ s.count mark

/-- The marker of a list item: how many characters it has, and the number of an ordered item. -/
def markerLength? (s : Text) : Option (Nat × Option Nat) :=
  match s with
  | [] => none
  | mark :: _ =>
    if mark = '-' ∨ mark = '+' ∨ mark = '*' then some (1, none)
    else
      let digits := s.takeWhile Char.isDigit
      let isEnd := (s.drop digits.length).head?.any fun c => c = '.' || c = ')'
      if digits.isEmpty ∨ 9 < digits.length ∨ !isEnd then none
      else some (digits.length + 1, some (digits.foldl (fun n c => 10 * n + (c.toNat - '0'.toNat)) 0))

/-- The cursor after the marker of an item, with the column that its content starts in; `indent` columns precede the
    marker. White space or the end of the line follows a marker. Four or more columns of it are the content's, save one. -/
def itemMarker? (indent : Nat) (c : Cursor) : Option (Nat × Cursor) := do
  if isRule c.ahead then none
  let (length, _) ← markerLength? c.ahead
  let marked := c.advanceBy length
  let (taken, after) := marked.takeColumns 1
  if taken = 0 ∧ !marked.atEnd then none
  let content := indent + length + 1
  if isBlankLine after.ahead then return (content, after)
  let (spaces, last) := after.takeColumns 4
  if spaces < 4 then return (content + spaces, last) else return (content, after)

/-- A container that a line opens: the container, how many characters of the line precede it, and the cursor after its
    mark. -/
structure Opening where
  container : Container
  place : Nat
  cursor : Cursor
  deriving DecidableEq, Repr

/-- The container that a line opens at a cursor. At most three columns may precede its mark, and they are its own. -/
def opening? (c : Cursor) : Option Opening :=
  let (indent, marked) := c.takeColumns 4
  if 4 ≤ indent then none
  else match itemMarker? indent marked with
    | some (content, after) => some ⟨.item content (isBlankLine after.ahead), c.passed, after⟩
    | none => marked.quoteMark?.map fun after => ⟨.quote, c.passed, after⟩

/-- All the containers that a line opens from a cursor on, and the cursor after them; nothing is opened after the marker of
    a bare item. `fuel` bounds their number. -/
def openings : Nat → Cursor → List Opening × Cursor
  | 0, c => ([], c)
  | fuel + 1, c =>
    match opening? c with
    | none => ([], c)
    | some o =>
      match o.container with
      | .item _ true => ([o], o.cursor)
      | _ =>
        let (later, last) := openings fuel o.cursor
        (o :: later, last)

end ReadingLog.Markdown
