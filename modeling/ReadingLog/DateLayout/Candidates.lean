import ReadingLog.DateLayout.Basic
import ReadingLog.Text.Digit

/-!
# Candidates

Pieces of a longer text that have the shape of a layout, such as `1234-56-78` for `YYYY-MM-DD`. Every place of the text
where the shape fits gives one candidate, so candidates may overlap. At one place, each field from the left takes as much
text as the rest of the shape allows.
-/

namespace ReadingLog.DateLayout

/-- An ASCII letter. -/
def isLetter (c : Char) : Bool := c.isAlpha

/-- `n` where the text begins with `n` characters of a class. -/
def exactly (n : Nat) (p : Char → Bool) (s : Text) : List Nat :=
  if (s.take n).length = n ∧ (s.take n).all p then [n] else []

/-- The lengths that a field can take of a text, the preferred one first: digits as many as the field may have, a name
    any run of letters, an abbreviation three letters. -/
def Field.lengths (s : Text) : Field → List Nat
  | .year => exactly 4 Text.isScriptDigit s
  | .shortYear | .paddedMonth | .paddedDay => exactly 2 Text.isScriptDigit s
  | .month | .day => exactly 2 Text.isScriptDigit s ++ exactly 1 Text.isScriptDigit s
  | .monthName | .weekdayName => Text.lengthsDown (s.takeWhile isLetter).length
  | .monthAbbreviation | .weekdayAbbreviation => exactly 3 isLetter s

/-- The length of the preferred piece, from the start of a text, that has the shape of the tokens. -/
def Token.shape? : List Token → Text → Option Nat
  | [], _ => some 0
  | .literal text :: tokens, s =>
    if text.isPrefixOf s then (shape? tokens (s.drop text.length)).map (text.length + ·) else none
  | .field f :: tokens, s => (f.lengths s).findSome? fun n => (shape? tokens (s.drop n)).map (n + ·)

/-- The candidates of a text, from left to right. -/
def Token.candidates (tokens : List Token) : Text → List Text
  | [] => []
  | c :: rest =>
    match Token.shape? tokens (c :: rest) with
    | some n => (c :: rest).take n :: candidates tokens rest
    | none => candidates tokens rest

/-- The pieces of a text that have the shape of a layout, from left to right. -/
def candidates (layout : DateLayout) (s : Text) : List Text := Token.candidates layout.tokens s

end ReadingLog.DateLayout
