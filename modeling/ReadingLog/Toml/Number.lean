import ReadingLog.Text.Decimal

/-!
# Numbers

Integers are written in decimal with a sign, or in another base after `0x`, `0o` or `0b`; they have 64 bits. Floats have a
fraction or an exponent. Underscores may stand between digits.
-/

namespace ReadingLog.Toml.Number

/-- A number as it is read: an integer, or a float as it is written. -/
inductive Literal where
  | integer (value : Int)
  | float (text : Text)
  deriving DecidableEq, Repr

/-- A run of digits of a class, of which two neighbours may have an underscore between them, without the underscores, and
    what follows the run. -/
def digits? (isDigit : Char → Bool) : Text → Option (Text × Text)
  | [] => none
  | c :: rest =>
    if !isDigit c then none
    else match rest with
      | '_' :: after => (digits? isDigit after).map fun (run, left) => (c :: run, left)
      | d :: after =>
        if isDigit d then (digits? isDigit (d :: after)).map fun (run, left) => (c :: run, left)
        else some ([c], d :: after)
      | [] => some ([c], [])

/-- The digits of a decimal integer: no zero stands before another digit. -/
def decimal? : Text → Option (Text × Text)
  | '0' :: rest => some (['0'], rest)
  | s => digits? Char.isDigit s

/-- The least and the greatest integer. -/
def isInRange (n : Int) : Bool := -9223372036854775808 ≤ n && n ≤ 9223372036854775807

/-- An integer in a base after its mark. -/
def inBase? (base : Nat) (s : Text) : Option (Literal × Text) := do
  let value (c : Char) : Nat :=
    if c.isDigit then c.toNat - 48 else if c.isLower then c.toNat - 87 else c.toNat - 55
  let (run, rest) ← digits? (fun c => c.isAlphanum && value c < base) s
  let n : Int := (run.foldl (fun n c => base * n + value c) 0 : Nat)
  if isInRange n then some (.integer n, rest) else none

/-- A sign at the start of a text, and what follows it. -/
def sign (s : Text) : Text × Text :=
  match s with
  | '+' :: rest => (['+'], rest)
  | '-' :: rest => (['-'], rest)
  | _ => ([], s)

/-- The exponent of a float, with its mark, and what follows it. -/
def exponent? (s : Text) : Option (Text × Text) := do
  match s with
  | c :: rest =>
    if c ≠ 'e' ∧ c ≠ 'E' then none
    let (mark, rest) := sign rest
    let (run, rest) ← digits? Char.isDigit rest
    return (c :: mark ++ run, rest)
  | [] => none

/-- The digits with a power of ten are too much for a float: at least as near to 2 ^ 1024 as to any number below it. -/
def overflows (digits : Text) (power : Int) : Bool :=
  let n := Text.value digits
  let bound := (Nat.pow 2 54 - 1) * Nat.pow 2 970
  let size := (digits.dropWhile (· = '0')).length
  if n = 0 ∨ (size : Int) + power < 300 then false
  else if 400 < (size : Int) + power then true
  else if 0 ≤ power then bound ≤ n * Nat.pow 10 power.toNat
  else bound * Nat.pow 10 (-power).toNat ≤ n

/-- The power of ten of a written exponent. -/
def powerOf (exponent : Text) : Int :=
  match exponent.drop 1 with
  | '-' :: run => -(Text.value run : Int)
  | '+' :: run => Text.value run
  | run => Text.value run

/-- A float whose sign and whole part have been read; none that is too large. -/
def float? (mark whole rest : Text) : Option (Literal × Text) := do
  let (fraction, rest) ← match rest with
    | '.' :: after => digits? Char.isDigit after
    | _ => some ([], rest)
  let startsExponent := rest.head?.any fun c => c = 'e' || c = 'E'
  let (power, rest) ← if startsExponent then exponent? rest else some ([], rest)
  if mark ≠ ['-'] ∧ overflows (whole ++ fraction) (powerOf power - fraction.length) then none
  return (.float (mark ++ whole ++ (if fraction.isEmpty then [] else '.' :: fraction) ++ power), rest)

/-- An infinite float or none at all, by name. -/
def special? (mark s : Text) : Option (Literal × Text) :=
  match s with
  | 'i' :: 'n' :: 'f' :: rest => some (.float (mark ++ ['i', 'n', 'f']), rest)
  | 'n' :: 'a' :: 'n' :: rest => some (.float (mark ++ ['n', 'a', 'n']), rest)
  | _ => none

/-- A number at the start of a text, and what follows it. -/
def read? (s : Text) : Option (Literal × Text) :=
  match s with
  | '0' :: 'x' :: rest => inBase? 16 rest
  | '0' :: 'o' :: rest => inBase? 8 rest
  | '0' :: 'b' :: rest => inBase? 2 rest
  | _ => do
    let (mark, unsigned) := sign s
    match special? mark unsigned with
    | some found => some found
    | none =>
      let (whole, rest) ← decimal? unsigned
      if rest.head?.any fun c => c = '.' || c = 'e' || c = 'E' then float? mark whole rest
      else
        let n : Int := if mark = ['-'] then -(Text.value whole : Int) else Text.value whole
        if isInRange n then some (.integer n, rest) else none

end ReadingLog.Toml.Number
