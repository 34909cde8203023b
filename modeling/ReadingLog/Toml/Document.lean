import ReadingLog.Toml.Table
import ReadingLog.Toml.Quoted
import ReadingLog.Toml.Number
import ReadingLog.Toml.Moment

/-!
# Settings documents

A document is a text of statements, each on a line of its own. `Document.parse?` reads the statements of a document,
`Document.render` writes a document whose statements assign strings.
-/

namespace ReadingLog.Toml.Document

/-! ## Between values -/

/-- White space within a line. -/
def isSpace (c : Char) : Bool := c = ' ' || c = '\t'

/-- What follows spaces and tabs. -/
def dropSpace (s : Text) : Text := s.dropWhile isSpace

/-- What follows a comment, if there is one. -/
def dropComment : Text → Text
  | '#' :: rest => rest.dropWhile Quoted.isPlain
  | s => s

/-- What follows the end of a line, after spaces and a comment. -/
def dropLineEnd? (s : Text) : Option Text :=
  match dropComment (dropSpace s) with
  | [] => some []
  | rest => Quoted.dropLineEnd? rest

/-- What follows spaces, comments and line ends. -/
def dropFiller : Text → Text
  | [] => []
  | '\r' :: '\n' :: rest => dropFiller rest
  | '#' :: rest => dropFiller (rest.dropWhile Quoted.isPlain)
  | c :: rest => if isSpace c ∨ c = '\n' then dropFiller rest else c :: rest
termination_by s => s.length
decreasing_by
  · simp only [List.length_cons]; omega
  · have := (List.dropWhile_sublist Quoted.isPlain (l := rest)).length_le
    simp only [List.length_cons]; omega
  · simp only [List.length_cons]; omega

/-! ## Keys -/

/-- A character of a key without quotes. -/
def isBare (c : Char) : Bool := c.isAlphanum || c = '_' || c = '-'

/-- A name in a key, and what follows it. -/
def name? : Text → Option (Text × Text)
  | '"' :: rest => Quoted.basic? rest
  | '\'' :: rest => Quoted.literal? rest
  | s => if (s.takeWhile isBare).isEmpty then none else some (s.takeWhile isBare, s.dropWhile isBare)

/-- The names of a dotted key, `budget` of them at most, and what follows it and the spaces after it. -/
def names? : Nat → Text → Option (List Text × Text)
  | 0, _ => none
  | budget + 1, s => do
    let (name, rest) ← name? (dropSpace s)
    match dropSpace rest with
    | '.' :: rest =>
      let (names, rest) ← names? budget rest
      return (name :: names, rest)
    | rest => return ([name], rest)

/-- How deep keys and values may be nested. -/
def deepest : Nat := 79

/-- A key, and what follows it. -/
def key? (s : Text) : Option (Key × Text) := do
  let (names, rest) ← names? deepest s
  let name ← names.getLast?
  return (⟨names.dropLast, name⟩, rest)

/-! ## Values -/

/-- A value that holds no others, and what follows it. -/
def scalar? (s : Text) : Option (Value × Text) :=
  match s with
  | 't' :: 'r' :: 'u' :: 'e' :: rest => some (.boolean true, rest)
  | 'f' :: 'a' :: 'l' :: 's' :: 'e' :: rest => some (.boolean false, rest)
  | c :: _ =>
    if c = '"' ∨ c = '\'' then (Quoted.read? s).map fun (text, rest) => (.string text, rest)
    else match Moment.read? s with
      | some (text, rest) => some (.moment text, rest)
      | none =>
        match Number.read? s with
        | some (.integer n, rest) => some (.integer n, rest)
        | some (.float text, rest) => some (.float text, rest)
        | none => none
  | [] => none

/-- The items of an array up to its closing bracket, each read by `read`; `fuel` bounds their number. -/
def items? (read : Text → Option (Value × Text)) : Nat → Text → Option (List Value × Text)
  | 0, _ => none
  | fuel + 1, s =>
    match dropFiller s with
    | ']' :: rest => some ([], rest)
    | s => do
      let (item, rest) ← read s
      match dropFiller rest with
      | ',' :: rest =>
        let (items, rest) ← items? read fuel rest
        return (item :: items, rest)
      | ']' :: rest => return ([item], rest)
      | _ => none

/-- An assignment, whose value is read by `read`, and what follows it and the spaces after it. -/
def assignment? (read : Text → Option (Value × Text)) (s : Text) : Option ((Key × Value) × Text) := do
  let (key, rest) ← key? s
  match rest with
  | '=' :: rest =>
    let (value, rest) ← read (dropSpace rest)
    return ((key, value), dropSpace rest)
  | _ => none

/-- The assignments between braces up to the closing one; `fuel` bounds their number. -/
def assignments? (read : Text → Option (Value × Text)) : Nat → Text → Option (List (Key × Value) × Text)
  | 0, _ => none
  | fuel + 1, s => do
    let (first, rest) ← assignment? read s
    match rest with
    | ',' :: rest =>
      let (more, rest) ← assignments? read fuel rest
      return (first :: more, rest)
    | '\x7d' :: rest => return ([first], rest)
    | _ => none

/-- A value that is nested no deeper than `depth`, and what follows it. -/
def value? : Nat → Text → Option (Value × Text)
  | 0, s => scalar? s
  | depth + 1, s =>
    match s with
    | '[' :: rest => (items? (value? depth) (rest.length + 1) rest).map fun (items, rest) => (.array false items, rest)
    | '\x7b' :: rest =>
      match dropSpace rest with
      | '\x7d' :: rest => some (.table .inline [], rest)
      | _ => do
        let (assignments, rest) ← assignments? (value? depth) (rest.length + 1) rest
        let t ← Table.ofAssignments? assignments
        return (.table .inline t, rest)
    | _ => scalar? s

/-! ## Documents -/

/-- A statement, and what follows it. -/
def statement? : Text → Option (Statement Value × Text)
  | '[' :: '[' :: rest =>
    match key? rest with
    | some (key, ']' :: ']' :: rest) => some (.element key, rest)
    | _ => none
  | '[' :: rest =>
    match key? rest with
    | some (key, ']' :: rest) => some (.header key, rest)
    | _ => none
  | s => (assignment? (value? deepest) s).map fun ((key, value), rest) => (.assign key value, rest)

/-- The statements of a text; `fuel` bounds the number of its lines. -/
def statements? : Nat → Text → Option (List (Statement Value))
  | 0, _ => none
  | fuel + 1, s =>
    match dropSpace s with
    | [] => some []
    | start =>
      match dropLineEnd? start with
      | some rest => statements? fuel rest
      | none => do
        let (statement, rest) ← statement? start
        return statement :: (← statements? fuel (← dropLineEnd? rest))

/-- The statements of a document; a byte order mark may precede them. -/
def parse? (s : Text) : Option (List (Statement Value)) :=
  let s := if s.head? = some '\uFEFF' then s.drop 1 else s
  statements? (s.length + 1) s

/-- A name in a key, in quotes if it needs them. -/
def renderName (name : Text) : Text :=
  if !name.isEmpty && name.all isBare then name else '"' :: Quoted.basicBody name ++ ['"']

/-- A key. -/
def renderKey (key : Key) : Text := ['.'].intercalate ((key.tables ++ [key.name]).map renderName)

/-- A statement on its line, or lines. -/
def renderStatement : Statement Text → Text
  | .header key => '[' :: renderKey key ++ [']', '\n']
  | .element key => '[' :: '[' :: renderKey key ++ [']', ']', '\n']
  | .assign key text => renderKey key ++ [' ', '=', ' '] ++ Quoted.render text ++ ['\n']

/-- Statements that follow others: an empty line precedes each header. -/
def renderAfter : List (Statement Text) → Text
  | [] => []
  | .assign key text :: rest => renderStatement (.assign key text) ++ renderAfter rest
  | statement :: rest => '\n' :: renderStatement statement ++ renderAfter rest

/-- A document whose statements assign strings. -/
def render : List (Statement Text) → Text
  | [] => []
  | first :: rest => renderStatement first ++ renderAfter rest

end ReadingLog.Toml.Document
