import ReadingLog.Text.Basic

/-!
# Decimal numbers in text

Reading runs of ASCII digits, as numbers of any size or as words, and writing numbers with a least width.
-/

namespace ReadingLog.Text

/-- The number that a run of digits stands for, with `value` standing for the digits already read. -/
def valueFrom (value : Nat) (digits : Text) : Nat := digits.foldl (fun n c => 10 * n + (c.toNat - '0'.toNat)) value

/-- The number that a run of digits stands for. -/
def value (digits : Text) : Nat := valueFrom 0 digits

/-- A decimal numeral without leading zeros. -/
def ofNat (n : Nat) : Text := Nat.toDigits 10 n

/-- A decimal numeral of at least `width` digits. -/
def padded (width n : Nat) : Text := List.replicate (width - (ofNat n).length) '0' ++ ofNat n

/-! ## Words

Numbers that a reader gives are read into words of 64 bits. Arithmetic on words wraps around, so every product and every sum is
refused that is too great for a word.
-/

/-- The product of two words, if it is one. -/
def times? (a b : UInt64) : Option UInt64 := if a.toNat * b.toNat < UInt64.size then some (a * b) else none

/-- The sum of two words, if it is one. -/
def plus? (a b : UInt64) : Option UInt64 := if a.toNat + b.toNat < UInt64.size then some (a + b) else none

/-- The word that a run of digits stands for, with `word` standing for the digits already read. -/
def wordFrom? (word : UInt64) : Text → Option UInt64
  | [] => some word
  | c :: digits => do
    let tens ← times? word 10
    wordFrom? (← plus? tens (UInt64.ofNat (c.toNat - '0'.toNat))) digits

/-- The word that a nonempty run of ASCII digits stands for that is the whole text. -/
def word? (s : Text) : Option UInt64 := if s.isEmpty || !s.all Char.isDigit then none else wordFrom? 0 s

end ReadingLog.Text
