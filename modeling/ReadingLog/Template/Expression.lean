import ReadingLog.Template.Segment

/-!
# Templates as regular expressions

A template is written out as a regular expression, which then has to be read: a backslash stands before every character of its
text that means something else there, and its slots, but for those for anything, are groups by name. `Expression.ofText?` reads
what templates are written with: characters, digits, any character, repetitions of these, and groups. Alternatives, sets of
characters and other groups are left out, and no text with them is read.
-/

namespace ReadingLog.Expression

/-- What one character can be. -/
inductive Class where
  | exactly (c : Char)
  | digit
  | any
  deriving DecidableEq, Repr

/-- How often a character can be repeated. -/
inductive Times where
  | atMostOnce
  | anyNumber
  | atLeastOnce
  deriving DecidableEq, Repr

/-- A part of an expression. -/
inductive Part where
  /-- The start of the text. -/
  | start
  /-- The end of the text. -/
  | finish
  | once (what : Class)
  /-- A repetition takes as much as it can, unless it is to take as little. -/
  | repeated (what : Class) (times : Times) (little : Bool)
  | group (name : Text) (inside : List Part)
  deriving Repr

/-! ## Marks -/

/-- A mark in the text of an expression. -/
inductive Mark where
  | start
  | finish
  | once (what : Class)
  | repetition (times : Times) (little : Bool)
  | opening (name : Text)
  | closing
  deriving DecidableEq, Repr

/-- The characters that do not stand for themselves. -/
def operators : List Char := ['\\', '.', '+', '*', '?', '(', ')', '|', '[', '\x7b', '^', '$']

/-- The characters that a backslash is written before: operators, and those that can be part of one. -/
def escaped : List Char := operators ++ [']', '\x7d', '#', '&', '-', '~']

/-- The repetition that a character asks for. -/
def timesOf? : Char → Option Times
  | '?' => some .atMostOnce
  | '*' => some .anyNumber
  | '+' => some .atLeastOnce
  | _ => none

/-- The name of a group that a text begins with: letters and digits, a letter first, up to an angle bracket. -/
def groupName? (s : Text) : Option Text :=
  let name := s.takeWhile Char.isAlphanum
  if name.head?.any Char.isAlpha ∧ (s.drop name.length).head? = some '>' then some name else none

/-- The mark that begins with a character, and how many characters it takes of what follows. A question mark after a repetition
    has it take as little as it can. -/
def mark? (c : Char) (rest : Text) : Option (Mark × Nat) :=
  match c, rest with
  | '\\', 'd' :: _ => some (.once .digit, 1)
  | '\\', d :: _ => if d ∈ escaped then some (.once (.exactly d), 1) else none
  | '(', '?' :: 'P' :: '<' :: rest => (groupName? rest).map fun name => (.opening name, name.length + 4)
  | ')', _ => some (.closing, 0)
  | '^', _ => some (.start, 0)
  | '$', _ => some (.finish, 0)
  | '.', _ => some (.once .any, 0)
  | c, rest =>
    match timesOf? c with
    | some times => if rest.head? = some '?' then some (.repetition times true, 1) else some (.repetition times false, 0)
    | none => if c ∈ operators then none else some (.once (.exactly c), 0)

/-- The marks of a text. -/
def marks? : Text → Option (List Mark)
  | [] => some []
  | c :: rest => (mark? c rest).bind fun (mark, n) => (marks? (rest.drop n)).map (mark :: ·)
termination_by s => s.length
decreasing_by
  simp only [List.length_drop, List.length_cons]
  omega

/-! ## Reading -/

/-- How far an expression has been read. -/
structure Reading where
  /-- The groups that are open, the innermost first: their names, and the parts before each, the last one first. -/
  outer : List (Text × List Part) := []
  /-- The names of all groups so far. -/
  names : List Text := []
  /-- The parts of the innermost group, the last one first. -/
  parts : List Part := []

namespace Reading

/-- The reading with another part. -/
def add (r : Reading) (part : Part) : Reading := { r with parts := part :: r.parts }

/-- The reading after another mark. No two groups have one name, only an open group is closed, and only a character can be
    repeated. -/
def step? (r : Reading) : Mark → Option Reading
  | .start => some (r.add .start)
  | .finish => some (r.add .finish)
  | .once what => some (r.add (.once what))
  | .repetition times little =>
    match r.parts with
    | .once what :: before => some { r with parts := .repeated what times little :: before }
    | _ => none
  | .opening name => if name ∈ r.names then none else some ⟨(name, r.parts) :: r.outer, name :: r.names, []⟩
  | .closing =>
    match r.outer with
    | [] => none
    | (name, before) :: outer => some ⟨outer, r.names, .group name r.parts.reverse :: before⟩

/-- The expression that was read, once every group is closed. -/
def whole? (r : Reading) : Option (List Part) := if r.outer.isEmpty then some r.parts.reverse else none

end Reading

/-- The expression that a text spells. -/
def ofText? (s : Text) : Option (List Part) := do
  (← (← marks? s).foldlM Reading.step? {}).whole?

/-! ## Templates -/

/-- Text that stands for itself. -/
def escape (text : Text) : Text := text.flatMap fun c => if c ∈ escaped then ['\\', c] else [c]

/-- A group with a name. -/
def spellGroup (name inside : Text) : Text := ['(', '?', 'P', '<'] ++ name ++ ['>'] ++ inside ++ [')']

/-- A slot as an expression. -/
def spellSlot (p : Placeholder) : Text :=
  match p with
  | .date | .book => spellGroup p.name.toList ['.', '+', '?']
  | .startPage | .endPage => spellGroup p.name.toList ['\\', 'd', '+']
  | .finish => spellGroup p.name.toList ['\\', 'd', '+', '%', '?']
  | .anything => ['.', '*', '?']

/-- A segment as an expression. -/
def spellSegment : Template.Segment → Text
  | .literal text => escape text
  | .slot p => spellSlot p

/-- The segments of a template as an expression for whole lines. -/
def spell (segments : List Template.Segment) : Text := ['^'] ++ segments.flatMap spellSegment ++ ['$']

end ReadingLog.Expression
