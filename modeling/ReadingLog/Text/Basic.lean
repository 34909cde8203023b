/-!
# Text

Text under inspection is a list of characters. This module holds what every reader of text needs: Unicode white space
and trimming, lines, and cutting at a known piece.
-/

namespace ReadingLog

/-- Text under inspection, character by character. -/
abbrev Text := List Char

namespace Text

/-- White space: the Unicode property `White_Space`. -/
def isBlank (c : Char) : Bool :=
  let n := c.toNat
  (9 ≤ n && n ≤ 13) || n == 0x20 || n == 0x85 || n == 0xA0 || n == 0x1680 || (0x2000 ≤ n && n ≤ 0x200A)
    || n == 0x2028 || n == 0x2029 || n == 0x202F || n == 0x205F || n == 0x3000

/-- Text without the white space it begins with. -/
def trimStart (s : Text) : Text := s.dropWhile isBlank

/-- Text without the white space it ends with. -/
def trimEnd (s : Text) : Text := (s.reverse.dropWhile isBlank).reverse

/-- Text without the white space around it. -/
def trim (s : Text) : Text := trimEnd (trimStart s)

/-- The lines of a text, where `pending` holds the line begun so far, last character first. A line ends with a line feed,
    and a carriage return just before that line feed belongs to the end of the line. -/
def linesFrom (pending : Text) : Text → List Text
  | [] => if pending.isEmpty then [] else [pending.reverse]
  | '\n' :: rest =>
    (match pending with
      | '\r' :: line => line.reverse
      | line => line.reverse) :: linesFrom [] rest
  | c :: rest => linesFrom (c :: pending) rest

/-- The lines of a text without their ends; nothing follows a final line feed. -/
def lines (s : Text) : List Text := linesFrom [] s

/-- What precedes and what follows the first occurrence of `piece`. -/
def splitOnce? (piece : Text) : Text → Option (Text × Text)
  | [] => if piece.isEmpty then some ([], []) else none
  | c :: rest =>
    match piece.isPrefixOf? (c :: rest) with
    | some after => some ([], after)
    | none => (splitOnce? piece rest).map fun (before, after) => (c :: before, after)

/-- Does `piece` occur in the text? -/
def contains (piece : Text) : Text → Bool
  | [] => piece.isEmpty
  | c :: rest => piece.isPrefixOf (c :: rest) || contains piece rest

/-- Text without `piece` at its end, and unchanged where it does not end so. -/
def dropSuffix (s : Text) (piece : Text) : Text := (piece.isSuffixOf? s).getD s

/-- The lengths `n, n - 1, …, 1` that a run of `n` characters can be cut to, the longest first. -/
def lengthsDown : Nat → List Nat
  | 0 => []
  | n + 1 => (n + 1) :: lengthsDown n

/-- The bytes of a text in UTF-8. -/
def utf8 (s : String) : List UInt8 := s.toUTF8.data.toList

/-- Equality up to the case of ASCII letters. -/
def sameIgnoringCase (s t : Text) : Bool := s.map Char.toLower == t.map Char.toLower

end Text
end ReadingLog
