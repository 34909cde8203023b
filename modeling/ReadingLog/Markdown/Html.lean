import ReadingLog.Markdown.Cursor
import ReadingLog.Text.Punctuation

/-!
# HTML in notes

Raw HTML is no text of a heading, and HTML blocks hide what looks like headings and items. This module recognises tags,
comments and the other forms of HTML within text, links in angle brackets, and the lines that begin an HTML block.
-/

namespace ReadingLog.Markdown

/-- White space, line ends included. -/
def isSpaceOrEnd (c : Char) : Bool := isSpacing c || c = '\n' || c = '\r'

/-- What follows a character of a class and all of a second class after it. -/
def dropName? (first later : Char → Bool) : Text → Option Text
  | c :: rest => if first c then some (rest.dropWhile later) else none
  | [] => none

/-- What follows the first occurrence of a character. -/
def dropPast? (c : Char) (s : Text) : Option Text :=
  match s.dropWhile (· != c) with
  | [] => none
  | _ :: rest => some rest

/-- What follows the first occurrence of a piece of text. -/
def dropPastPiece? (piece : Text) (s : Text) : Option Text := (Text.splitOnce? piece s).map (·.2)

/-- What follows the value of an attribute. -/
def dropAttributeValue? : Text → Option Text
  | '"' :: rest => dropPast? '"' rest
  | '\'' :: rest => dropPast? '\'' rest
  | s =>
    let marks := ['"', '\'', '=', '<', '>', '`']
    let isValueChar c := !isSpaceOrEnd c && !marks.contains c
    dropName? isValueChar isValueChar s

/-- What follows an attribute: a name, and a value after an equals sign. -/
def dropAttribute? (s : Text) : Option Text := do
  let isFirst c := c.isAlpha || c = '_' || c = ':'
  let isLater c := isFirst c || c.isDigit || c = '.' || c = '-'
  let rest ← dropName? isFirst isLater s
  match rest.dropWhile isSpaceOrEnd with
  | '=' :: value => dropAttributeValue? (value.dropWhile isSpaceOrEnd)
  | _ => return rest

/-- What follows the attributes and the end of an opening tag; each attribute needs white space before it. `fuel` bounds
    the number of attributes. -/
def dropAttributes? : Nat → Text → Option Text
  | 0, _ => none
  | fuel + 1, s =>
    match s.dropWhile isSpaceOrEnd with
    | '>' :: rest => some rest
    | '/' :: '>' :: rest => some rest
    | rest => if rest.length < s.length then (dropAttribute? rest).bind (dropAttributes? fuel) else none

/-- What follows a tag whose `<` stands before the text. -/
def dropTag? (s : Text) : Option Text :=
  let isLater c := c.isAlphanum || c = '-'
  match s with
  | '/' :: name =>
    (dropName? Char.isAlpha isLater name).bind fun rest =>
      match rest.dropWhile isSpacing with
      | '>' :: rest => some rest
      | _ => none
  | name => (dropName? Char.isAlpha isLater name).bind fun rest => dropAttributes? (rest.length + 1) rest

/-- What follows HTML within text whose `<` stands before `s`: a comment, a processing instruction, character data, a
    declaration or a tag. -/
def dropInlineHtml? (s : Text) : Option Text :=
  match s with
  | '!' :: '-' :: '-' :: rest =>
    match rest with
    | '>' :: after => some after
    | '-' :: '>' :: after => some after
    | _ => dropPastPiece? ['-', '-', '>'] rest
  | '?' :: rest => dropPastPiece? ['?', '>'] rest
  | '!' :: '[' :: 'C' :: 'D' :: 'A' :: 'T' :: 'A' :: '[' :: rest => dropPastPiece? [']', ']', '>'] rest
  | '!' :: c :: rest => if c.isAlpha then dropPast? '>' rest else none
  | _ => dropTag? s

/-- The address of a link in angle brackets: a scheme of 2 to 32 characters, a colon, and no white space after it. -/
def uriLink? (s : Text) : Option Text := do
  let isLater c := c.isAlphanum || c = '.' || c = '-' || c = '+'
  let rest ← dropName? Char.isAlpha isLater s
  let scheme := s.length - rest.length
  if scheme < 2 ∨ 32 < scheme ∨ rest.head? ≠ some ':' then none
  let isUriChar c := 32 < c.toNat && c != '<' && c != '>'
  let address := s.take scheme ++ rest.takeWhile isUriChar
  if (s.drop address.length).head? = some '>' then some address else none

/-- The labels of a mail domain are letters, digits and inner hyphens, at most 63 of them. -/
def isDomainLabel (label : Text) : Bool :=
  label.length ≤ 63 && label.all (fun c => c.isAlphanum || c = '-') && label.head? != some '-' && label.getLast? != some '-'
    && !label.isEmpty

/-- The address of a mail link in angle brackets. -/
def mailLink? (s : Text) : Option Text :=
  let isNameChar c := c.isAlphanum || ".!#$%&'*+/=?^_`\x7b|\x7d~-".toList.contains c
  let name := s.takeWhile isNameChar
  let domain := (s.drop (name.length + 1)).takeWhile fun c => c.isAlphanum || c = '-' || c = '.'
  let address := name ++ '@' :: domain
  if !name.isEmpty && address.isPrefixOf s && (domain.splitOn '.').all isDomainLabel
      && (s.drop address.length).head? == some '>' then some address
  else none

/-- The address of a link in angle brackets whose `<` stands before the text. -/
def angleLink? (s : Text) : Option Text := uriLink? s <|> mailLink? s

/-! ## HTML blocks -/

/-- The names of the tags that begin an HTML block wherever they stand at the start of a line. -/
def blockTags : List String :=
  ["address", "article", "aside", "base", "basefont", "blockquote", "body", "caption", "center", "col", "colgroup", "dd",
   "details", "dialog", "dir", "div", "dl", "dt", "fieldset", "figcaption", "figure", "footer", "form", "frame",
   "frameset", "h1", "h2", "h3", "h4", "h5", "h6", "head", "header", "hr", "html", "iframe", "legend", "li", "link",
   "main", "menu", "menuitem", "nav", "noframes", "ol", "optgroup", "option", "p", "param", "search", "section",
   "summary", "table", "tbody", "td", "tfoot", "th", "thead", "title", "tr", "track", "ul"]

/-- The names of the tags whose content is raw up to their own closing tag. -/
def rawTags : List String := ["pre", "style", "script", "textarea"]

/-- The text that ends a block of raw HTML, for a line that begins one; `s` is the line after its `<`. -/
def rawBlockEnd? (s : Text) : Option Text :=
  let tag? := rawTags.find? fun name =>
    Text.sameIgnoringCase (s.take name.length) name.toList
      && ((s.drop name.length).head?.all fun c => isSpaceOrEnd c || c = '>')
  match tag? with
  | some name => some ('<' :: '/' :: name.toList ++ ['>'])
  | none =>
    match s with
    | '!' :: '-' :: '-' :: _ => some ['-', '-', '>']
    | '?' :: _ => some ['?', '>']
    | '!' :: '[' :: 'C' :: 'D' :: 'A' :: 'T' :: 'A' :: '[' :: _ => some [']', ']', '>']
    | '!' :: c :: _ => if c.isAlpha then some ['>'] else none
    | _ => none

/-- A line begins an HTML block by the name of its tag; `s` is the line after its `<`. -/
def beginsTagBlock (s : Text) : Bool :=
  let rest := if s.head? = some '/' then s.drop 1 else s
  let name := rest.takeWhile Char.isAlphanum
  let after := rest.drop name.length
  blockTags.any (fun tag => Text.sameIgnoringCase name tag.toList)
    && (after.isEmpty || after.head?.any (fun c => c = ' ' || c = '\t' || c = '>') || ['/', '>'].isPrefixOf after)

/-- A line that is one whole tag begins an HTML block; `s` is the line after its `<`. -/
def isWholeTag (s : Text) : Bool := (dropTag? s).any isBlankLine

end ReadingLog.Markdown
