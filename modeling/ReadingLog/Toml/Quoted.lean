import ReadingLog.Text.Decimal

/-!
# Quoted strings

A settings document writes a string in one of four kinds of quotes: basic strings with escapes and literal strings without,
both on one line or over several lines. `Quoted.render` chooses the plainest kind that can hold a text, `Quoted.read?` reads
every kind.
-/

namespace ReadingLog.Toml.Quoted

/-! ## Reading -/

/-- A character that may stand for itself. -/
def isPlain (c : Char) : Bool := c = '\t' || (0x20 ≤ c.toNat && c.toNat != 0x7F)

/-- The value of a hexadecimal digit. -/
def hexValue (c : Char) : Nat :=
  if c.isDigit then c.toNat - 48 else if c.toNat < 97 then c.toNat - 55 else c.toNat - 87

/-- A hexadecimal digit, in either case. -/
def isHexDigit (c : Char) : Bool := c.isDigit || ('a' ≤ c && c ≤ 'f') || ('A' ≤ c && c ≤ 'F')

/-- The character whose code is given by exactly `width` hexadecimal digits. -/
def scalar? (width : Nat) (digits : Text) : Option Char :=
  let code := digits.foldl (fun n c => 16 * n + hexValue c) 0
  if digits.length = width ∧ digits.all isHexDigit ∧ code.isValidChar then some (Char.ofNat code) else none

/-- The character that an escape stands for, and the length of the escape; the text begins after the backslash. -/
def escape? : Text → Option (Char × Nat)
  | 'b' :: _ => some ('\x08', 1)
  | 't' :: _ => some ('\t', 1)
  | 'n' :: _ => some ('\n', 1)
  | 'f' :: _ => some ('\x0c', 1)
  | 'r' :: _ => some ('\r', 1)
  | '"' :: _ => some ('"', 1)
  | '\\' :: _ => some ('\\', 1)
  | 'u' :: rest => (scalar? 4 (rest.take 4)).map (·, 5)
  | 'U' :: rest => (scalar? 8 (rest.take 8)).map (·, 9)
  | _ => none

/-- What follows a line end at the start of a text. -/
def dropLineEnd? : Text → Option Text
  | '\n' :: rest => some rest
  | '\r' :: '\n' :: rest => some rest
  | _ => none

/-- What follows spaces, tabs and line ends. -/
def dropBlank : Text → Text
  | [] => []
  | '\r' :: '\n' :: rest => dropBlank rest
  | c :: rest => if c = ' ' ∨ c = '\t' ∨ c = '\n' then dropBlank rest else c :: rest

theorem length_dropBlank (s : Text) : (dropBlank s).length ≤ s.length := by
  fun_induction dropBlank s <;> simp_all <;> omega

/-- What follows a backslash that ends its line, with the white space after it; the text begins after the backslash. -/
def dropContinuation? (s : Text) : Option Text :=
  (dropLineEnd? (s.dropWhile fun c => c = ' ' || c = '\t')).map fun _ => dropBlank s

/-- A text with one more character in front, beside what is left to read. -/
def prepend (c : Char) (read : Text × Text) : Text × Text := (c :: read.1, read.2)

/-- A basic string up to its closing quote. -/
def basic? : Text → Option (Text × Text)
  | [] => none
  | '"' :: rest => some ([], rest)
  | '\\' :: rest =>
    match escape? rest with
    | some (c, n) => (basic? (rest.drop n)).map (prepend c)
    | none => none
  | c :: rest => if isPlain c then (basic? rest).map (prepend c) else none
termination_by s => s.length
decreasing_by all_goals simp only [List.length_drop, List.length_cons]; omega

/-- A literal string up to its closing quote. -/
def literal? : Text → Option (Text × Text)
  | [] => none
  | '\'' :: rest => some ([], rest)
  | c :: rest => if isPlain c then (literal? rest).map (prepend c) else none

/-- At most two quotes that stand right before the closing ones of a string over several lines belong to it. -/
def closing (quote : Char) (rest : Text) : Text × Text :=
  let inner := (rest.take 2).takeWhile (· = quote)
  (inner, rest.drop inner.length)

/-- A basic string over several lines up to its closing quotes. -/
def basicLines? : Text → Option (Text × Text)
  | [] => none
  | '"' :: '"' :: '"' :: rest => some (closing '"' rest)
  | '\r' :: '\n' :: rest => (basicLines? rest).map (prepend '\n')
  | '\n' :: rest => (basicLines? rest).map (prepend '\n')
  | '\\' :: rest =>
    match _h : dropContinuation? rest with
    | some after => basicLines? after
    | none =>
      match escape? rest with
      | some (c, n) => (basicLines? (rest.drop n)).map (prepend c)
      | none => none
  | c :: rest => if isPlain c then (basicLines? rest).map (prepend c) else none
termination_by s => s.length
decreasing_by
  · simp only [List.length_cons]; omega
  · simp only [List.length_cons]; omega
  · obtain ⟨_, _, rfl⟩ := Option.map_eq_some_iff.1 ‹dropContinuation? rest = some after›
    have := length_dropBlank rest
    simp only [List.length_cons]; omega
  · simp only [List.length_drop, List.length_cons]; omega
  · simp only [List.length_cons]; omega

/-- A literal string over several lines up to its closing quotes. -/
def literalLines? : Text → Option (Text × Text)
  | [] => none
  | '\'' :: '\'' :: '\'' :: rest => some (closing '\'' rest)
  | '\r' :: '\n' :: rest => (literalLines? rest).map (prepend '\n')
  | '\n' :: rest => (literalLines? rest).map (prepend '\n')
  | c :: rest => if isPlain c then (literalLines? rest).map (prepend c) else none

/-- What follows the line end, if any, right after the opening quotes of a string over several lines. -/
def afterOpening (s : Text) : Text := (dropLineEnd? s).getD s

/-- A quoted string and what follows it. -/
def read? : Text → Option (Text × Text)
  | '"' :: '"' :: '"' :: rest => basicLines? (afterOpening rest)
  | '"' :: rest => basic? rest
  | '\'' :: '\'' :: '\'' :: rest => literalLines? (afterOpening rest)
  | '\'' :: rest => literal? rest
  | _ => none

/-! ## Writing -/

/-- A control character other than a tab and a line feed: one that has to be escaped. -/
def isControl (c : Char) : Bool := c != '\t' && c != '\n' && (c.toNat < 0x20 || c.toNat = 0x7F)

/-- A hexadecimal digit. -/
def hexDigit (n : Nat) : Char := if n < 10 then Char.ofNat (48 + n) else Char.ofNat (55 + n)

/-- A character in a basic string, save a quote and a line feed. -/
def escaped (c : Char) : Text :=
  if c = '\\' then ['\\', '\\']
  else if c = '\t' then ['\\', 't']
  else if c.toNat = 8 then ['\\', 'b']
  else if c.toNat = 12 then ['\\', 'f']
  else if c = '\r' then ['\\', 'r']
  else if isControl c then ['\\', 'u', '0', '0', hexDigit (c.toNat / 16), hexDigit (c.toNat % 16)]
  else [c]

/-- The inside of a basic string: quotes and line feeds are escaped, too. -/
def basicBody (s : Text) : Text :=
  s.flatMap fun c => if c = '"' then ['\\', '"'] else if c = '\n' then ['\\', 'n'] else escaped c

/-- The inside of a basic string over several lines, after a number of quotes in a row: the third quote of a row is
    escaped. -/
def basicLinesBody (quotes : Nat) : Text → Text
  | [] => []
  | c :: rest =>
    if c = '"' then
      if quotes < 2 then c :: basicLinesBody (quotes + 1) rest else '\\' :: c :: basicLinesBody 0 rest
    else if c = '\n' then c :: basicLinesBody 0 rest
    else escaped c ++ basicLinesBody 0 rest

/-- The kinds of quotes. -/
inductive Style where
  | basic
  | literal
  | basicLines
  | literalLines
  deriving DecidableEq, Repr

/-- The kind of quotes for a text: the first that needs no escapes but those of tabs, else basic quotes. -/
def style (s : Text) : Style :=
  let isFree (c : Char) : Bool := !decide (c ∈ s)
  let hasRow (c : Char) : Bool := Text.contains [c, c, c] s
  let hasControl := s.any isControl
  if !hasControl && isFree '\\' && isFree '"' && isFree '\n' then .basic
  else if !hasControl && isFree '\'' && isFree '\n' then .literal
  else if !hasControl && isFree '\\' && !hasRow '"' then .basicLines
  else if !hasControl && !hasRow '\'' then .literalLines
  else if isFree '\n' then .basic else .basicLines

/-- A text between quotes over several lines, of which the first is left empty if there is more than one. -/
def overLines (quote : Char) (s body : Text) : Text :=
  [quote, quote, quote] ++ (if '\n' ∈ s then ['\n'] else []) ++ body ++ [quote, quote, quote]

/-- A quoted text. -/
def render (s : Text) : Text :=
  match style s with
  | .basic => '"' :: basicBody s ++ ['"']
  | .literal => '\'' :: s ++ ['\'']
  | .basicLines => overLines '"' s (basicLinesBody 0 s)
  | .literalLines => overLines '\'' s s

end ReadingLog.Toml.Quoted
