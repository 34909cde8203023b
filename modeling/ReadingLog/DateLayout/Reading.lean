import ReadingLog.DateLayout.Basic

/-!
# Reading dates

`DateLayout.parse?` reads a text that is one date in a layout. White space in the layout stands for any white space or
none, numbers may be padded with white space and may leave out leading zeros, and names may be written in any case. What
the fields say is gathered in a `Findings` record: fields given twice must agree, and the weekday must fit the date.
-/

namespace ReadingLog.DateLayout

/-- What the fields read so far say about the date. -/
structure Findings where
  year : Option Int := none
  shortYear : Option Nat := none
  month : Option Nat := none
  day : Option Nat := none
  weekday : Option Nat := none
  deriving DecidableEq, Repr

namespace Findings

/-- A value noted beside an earlier one, which must be the same. -/
def note? {α : Type} [DecidableEq α] (earlier : Option α) (value : α) : Option (Option α) :=
  if earlier.all (· = value) then some (some value) else none

/-- A year with two digits and no century lies between 1970 and 2069. -/
def centuryOf (shortYear : Nat) : Int := if shortYear < 70 then 2000 + shortYear else 1900 + shortYear

/-- The year that the full and the short year agree on; a year below zero has no short form. -/
def year? (f : Findings) : Option Int :=
  match f.year, f.shortYear with
  | some y, none => some y
  | some y, some r => if 0 ≤ y ∧ y % 100 = r then some y else none
  | none, some r => some (centuryOf r)
  | none, none => none

/-- The date that the findings fix. -/
def date? (f : Findings) : Option Date := do
  let date ← Date.ofYMD? (← f.year?) (← f.month) (← f.day)
  if f.weekday.all (· = date.weekday) then some date else none

end Findings

/-- At most `width` digits after white space, at least one of them there, and the text after them. -/
def readNumber? (width : Nat) (s : Text) : Option (Nat × Text) :=
  let s := s.trimStart
  let digits := (s.take width).takeWhile Char.isDigit
  if digits.isEmpty then none else some (Text.value digits, s.drop digits.length)

/-- A year after white space: four digits at most, or any number of digits after a sign. -/
def readYear? (s : Text) : Option (Int × Text) :=
  match s.trimStart with
  | '-' :: rest => signed rest (-1)
  | '+' :: rest => signed rest 1
  | rest => (readNumber? 4 rest).map fun (n, after) => (n, after)
where
  /-- All the digits right after a sign. -/
  signed (s : Text) (sign : Int) : Option (Int × Text) :=
    let digits := s.takeWhile Char.isDigit
    if digits.isEmpty then none else some (sign * Text.value digits, s.drop digits.length)

/-- Text that begins with `piece` up to the case of ASCII letters, without it. -/
def dropIgnoringCase? (piece : Text) (s : Text) : Option Text :=
  if Text.sameIgnoringCase (s.take piece.length) piece then some (s.drop piece.length) else none

/-- The place in a list of names of the one whose first three letters begin the text, and the text after them. -/
def readAbbreviation? (names : List String) (s : Text) : Option (Nat × Text) :=
  names.zipIdx.findSome? fun (name, i) => (dropIgnoringCase? (name.toList.take 3) s).map (i, ·)

/-- As `readAbbreviation?`, with the rest of the name taken too where it follows. -/
def readName? (names : List String) (s : Text) : Option (Nat × Text) :=
  (readAbbreviation? names s).map fun (i, after) =>
    (i, (dropIgnoringCase? (((names[i]?).getD "").toList.drop 3) after).getD after)

/-- Literal text read off: white space stands for any white space, every other character for itself. -/
def readLiteral? : Text → Text → Option Text
  | [], s => some s
  | c :: literal, s =>
    if Text.isBlank c then readLiteral? literal s.trimStart
    else match s with
      | d :: rest => if c = d then readLiteral? literal rest else none
      | [] => none

/-- A month or day number within its range, or nothing. -/
def inRange? (limit : Nat) (n : Nat) : Option Nat := if 1 ≤ n ∧ n ≤ limit then some n else none

/-- A field read off the text and noted. -/
def Field.read? (f : Field) (found : Findings) (s : Text) : Option (Findings × Text) :=
  match f with
  | .year => do
    let (y, rest) ← readYear? s
    return ({ found with year := ← Findings.note? found.year y }, rest)
  | .shortYear => do
    let (y, rest) ← readNumber? 2 s
    return ({ found with shortYear := ← Findings.note? found.shortYear y }, rest)
  | .monthName => do
    let (m, rest) ← readName? Date.monthNames s
    return ({ found with month := ← Findings.note? found.month (m + 1) }, rest)
  | .monthAbbreviation => do
    let (m, rest) ← readAbbreviation? Date.monthNames s
    return ({ found with month := ← Findings.note? found.month (m + 1) }, rest)
  | .paddedMonth | .month => do
    let (m, rest) ← readNumber? 2 s
    return ({ found with month := ← Findings.note? found.month (← inRange? 12 m) }, rest)
  | .paddedDay | .day => do
    let (d, rest) ← readNumber? 2 s
    return ({ found with day := ← Findings.note? found.day (← inRange? 31 d) }, rest)
  | .weekdayName => do
    let (w, rest) ← readName? Date.weekdayNames s
    return ({ found with weekday := ← Findings.note? found.weekday w }, rest)
  | .weekdayAbbreviation => do
    let (w, rest) ← readAbbreviation? Date.weekdayNames s
    return ({ found with weekday := ← Findings.note? found.weekday w }, rest)

/-- A token read off the text. -/
def Token.read? (t : Token) (found : Findings) (s : Text) : Option (Findings × Text) :=
  match t with
  | .field f => f.read? found s
  | .literal text => (readLiteral? text s).map (found, ·)

/-- What the tokens find in a text that they use up. -/
def Token.readAll? : List Token → Findings → Text → Option Findings
  | [], found, s => if s.isEmpty then some found else none
  | t :: tokens, found, s => do
    let (found, rest) ← t.read? found s
    readAll? tokens found rest

/-- The date that the whole text spells by these tokens. -/
def Token.parse? (tokens : List Token) (s : Text) : Option Date := (Token.readAll? tokens {} s).bind Findings.date?

/-- The date that the whole text spells in a layout. -/
def parse? (layout : DateLayout) (s : Text) : Option Date := Token.parse? layout.tokens s

end ReadingLog.DateLayout
