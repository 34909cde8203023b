import ReadingLog.Text.Basic

/-!
# Places in a line

Block structure is decided by columns: a tab reaches to the next multiple of four, and a container may take only some of
its columns. A `Cursor` is a place in a line that may lie within a tab.
-/

namespace ReadingLog.Markdown

/-- White space within a line. -/
def isSpacing (c : Char) : Bool := c = ' ' || c = '\t' || c.toNat = 11 || c.toNat = 12

/-- The text is a blank line, or empty. -/
def isBlankLine (s : Text) : Bool := s.all isSpacing

/-- A line of a note: where it starts, its text without its end, and where the next line starts. -/
structure Line where
  start : Nat
  text : Text
  stop : Nat
  deriving DecidableEq, Repr

/-- The lines of a text from a place on, where `pending` holds the line begun at `start`, last character first. Lines end
    with a line feed, a carriage return, or both. -/
def linesFrom (start : Nat) (pending : Text) : Text → List Line
  | [] => if pending.isEmpty then [] else [⟨start, pending.reverse, start + pending.length⟩]
  | '\r' :: '\n' :: rest =>
    let stop := start + pending.length + 2
    ⟨start, pending.reverse, stop⟩ :: linesFrom stop [] rest
  | c :: rest =>
    if c = '\n' ∨ c = '\r' then
      let stop := start + pending.length + 1
      ⟨start, pending.reverse, stop⟩ :: linesFrom stop [] rest
    else linesFrom start (c :: pending) rest

/-- The lines of a note. -/
def linesOf (s : Text) : List Line := linesFrom 0 [] s

/-- A place in a line: the text ahead, the number of characters passed, the columns passed since the last tab stop at the
    end of a tab, and the columns of a tab just passed that are still to be taken. -/
structure Cursor where
  ahead : Text
  passed : Nat := 0
  column : Nat := 0
  owed : Nat := 0
  deriving DecidableEq, Repr

namespace Cursor

/-- The cursor one character on. -/
def advance (c : Cursor) : Cursor :=
  match c.ahead with
  | [] => c
  | _ :: rest => { c with ahead := rest, passed := c.passed + 1, column := c.column + 1 }

/-- The cursor `n` characters on. -/
def advanceBy : Nat → Cursor → Cursor
  | 0, c => c
  | n + 1, c => advanceBy n c.advance

/-- At most `n` columns of spaces and tabs are taken: their number, and the cursor after them. -/
def takeColumns : Nat → Cursor → Nat × Cursor
  | 0, c => (0, c)
  | n + 1, c =>
    if 0 < c.owed then
      let (taken, after) := takeColumns n { c with owed := c.owed - 1 }
      (taken + 1, after)
    else match c.ahead with
      | ' ' :: _ =>
        let (taken, after) := takeColumns n c.advance
        (taken + 1, after)
      | '\t' :: rest =>
        let (taken, after) := takeColumns n ⟨rest, c.passed + 1, 0, 3 - c.column % 4⟩
        (taken + 1, after)
      | _ => (0, c)

/-- The text ahead without the spaces and tabs it begins with. -/
def skipSpaces (c : Cursor) : Text := c.ahead.dropWhile fun x => x = ' ' || x = '\t'

/-- Nothing is ahead. -/
def atEnd (c : Cursor) : Bool := c.ahead.isEmpty

/-- The cursor after the mark of a quote and a column of space that may follow it. -/
def quoteMark? (c : Cursor) : Option Cursor :=
  match c.ahead with
  | '>' :: _ => some (takeColumns 1 c.advance).2
  | _ => none

end Cursor
end ReadingLog.Markdown
