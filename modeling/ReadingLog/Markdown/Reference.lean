import ReadingLog.Markdown.Html
import ReadingLog.Text.CaseFolding

/-!
# Links and their definitions

The parts of a link after its text (a destination with a title in parentheses, or a label in brackets) and definitions
such as `[label]: destination "title"`, which take no part in the text of a note.
-/

namespace ReadingLog.Markdown

/-- A label as labels are compared: runs of white space count as one space, and the case of letters does not matter. -/
def normalizeLabel (label : Text) : Text :=
  let words := (label.map fun c => if isSpaceOrEnd c then ' ' else c).splitOn ' '
  Text.foldCase ([' '].intercalate (words.filter (!·.isEmpty)))

/-- The label that ends at the first closing bracket, and what follows it. A label has no other brackets save escaped
    ones, is not blank, and has fewer than a thousand characters; `budget` is how many it may still have. -/
def label? (budget : Nat) : Text → Option (Text × Text)
  | [] => none
  | ']' :: rest => some ([], rest)
  | '[' :: _ => none
  | '\\' :: c :: rest =>
    match budget with
    | n + 2 => (label? n rest).map fun (label, after) => ('\\' :: c :: label, after)
    | _ => none
  | c :: rest =>
    match budget with
    | n + 1 => (label? n rest).map fun (label, after) => (c :: label, after)
    | _ => none

/-- The label in brackets whose opening bracket stands before the text, as labels are compared, and what follows it. -/
def linkLabel? (s : Text) : Option (Text × Text) :=
  (label? 999 s).bind fun (label, after) =>
    if label.all isSpaceOrEnd then none else some (normalizeLabel label, after)

/-- What follows a destination between angle brackets, of which the opening one stands before the text. -/
def dropPointed? : Text → Option Text
  | [] => none
  | '>' :: rest => some rest
  | '\\' :: c :: rest =>
    if Text.isAsciiPunctuation c then dropPointed? rest
    else if c = '>' ∨ c = '<' ∨ c = '\n' then none else dropPointed? rest
  | c :: rest => if c = '<' ∨ c = '\n' then none else dropPointed? rest

/-- What follows a bare destination, with `depth` parentheses open: it ends at white space, a control character, or a
    closing parenthesis that is not its own. -/
def dropBare? (depth : Nat) : Text → Option Text
  | [] => if depth = 0 then some [] else none
  | '\\' :: c :: rest =>
    if Text.isAsciiPunctuation c then dropBare? depth rest
    else if c.toNat ≤ 32 then (if depth = 0 then some (c :: rest) else none)
    else dropBare? depth rest
  | c :: rest =>
    if c.toNat ≤ 32 then (if depth = 0 then some (c :: rest) else none)
    else if c = '(' then (if 32 < depth then none else dropBare? (depth + 1) rest)
    else if c = ')' then
      match depth with
      | 0 => some (c :: rest)
      | d + 1 => dropBare? d rest
    else dropBare? depth rest

/-- What follows a destination. -/
def dropDestination? : Text → Option Text
  | '<' :: rest => dropPointed? rest
  | s => dropBare? 0 s

/-- What follows a title up to its closing character; a title has no unescaped character that opens or closes one. -/
def dropTitleRest? (opening closing : Char) : Text → Option Text
  | [] => none
  | '\\' :: c :: rest =>
    if Text.isAsciiPunctuation c then dropTitleRest? opening closing rest
    else dropTitleRest? opening closing (c :: rest)
  | c :: rest =>
    if c = closing then some rest else if c = opening then none else dropTitleRest? opening closing rest
termination_by s => s.length

/-- What follows a title. -/
def dropTitle? : Text → Option Text
  | '"' :: rest => dropTitleRest? '"' '"' rest
  | '\'' :: rest => dropTitleRest? '\'' '\'' rest
  | '(' :: rest => dropTitleRest? '(' ')' rest
  | _ => none

/-- What follows white space with at most one line end. -/
def dropSpace (s : Text) : Text :=
  match s.dropWhile isSpacing with
  | '\n' :: rest => rest.dropWhile isSpacing
  | rest => rest

/-- What follows the destination and title of a link in parentheses, of which the opening one stands before the text. -/
def dropInlineTarget? (s : Text) : Option Text := do
  let rest := dropSpace (← dropDestination? (dropSpace s))
  let rest := (dropTitle? rest).elim rest dropSpace
  match rest with
  | ')' :: after => some after
  | _ => none

/-- The label of the definition that a paragraph begins with, and what follows the definition; the lines of the paragraph
    are joined by line feeds. A definition ends with a line. -/
def definition? (s : Text) : Option (Text × Text) := do
  let inner ← ['['].isPrefixOf? s
  let (label, rest) ← linkLabel? inner
  let rest ← [':'].isPrefixOf? rest
  let destination := dropSpace rest
  let after ← dropDestination? destination
  if after.length = destination.length then none
  let sameLine := after.dropWhile isSpacing
  match sameLine with
  | [] => some (label, [])
  | '\n' :: nextLine =>
    match (dropTitle? (nextLine.dropWhile isSpacing)).map (·.dropWhile isSpacing) with
    | some [] => some (label, [])
    | some ('\n' :: rest) => some (label, rest)
    | _ => some (label, nextLine)
  | title =>
    if title.length = after.length then none
    match (dropTitle? title).map (·.dropWhile isSpacing) with
    | some [] => some (label, [])
    | some ('\n' :: rest) => some (label, rest)
    | _ => none

end ReadingLog.Markdown
