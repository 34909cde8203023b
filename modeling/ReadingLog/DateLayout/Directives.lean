import ReadingLog.DateLayout.Reading

/-!
# Directives

Dates are printed and read by directives, as `strftime` has them: a percent sign, perhaps a mark that says how a number is filled
up, and a letter for a part of the date, such as `%-d` for the day. A doubled percent sign is a percent sign, and all other text
stands for itself. `items?` takes such a text apart into items; dates are printed and read item by item. A layout is written out
as directives, by which `DateLayout.formatByDirectives?` prints and `DateLayout.parseByDirectives?` reads. What no layout asks
for, such as the time of day, is left to parameters.
-/

namespace ReadingLog.DateLayout

/-- What brings a number to its least width. -/
inductive Filling where
  | zeros
  | spaces
  | nothing
  deriving DecidableEq, Repr

/-- A number of a date that a layout can ask for. -/
inductive Quantity where
  | year
  | shortYear
  | month
  | day
  deriving DecidableEq, Repr

/-- A directive that no field of a layout is written as, by its letters; a number has a filling. -/
structure Foreign where
  letters : Text
  filling : Option Filling
  deriving DecidableEq, Repr

/-- A piece of a text of directives. -/
inductive Item where
  | number (quantity : Quantity) (filling : Filling)
  | monthName
  | monthAbbreviation
  | weekdayName
  | weekdayAbbreviation
  | foreign (directive : Foreign)
  | space (blanks : Text)
  | text (characters : Text)
  deriving DecidableEq, Repr

/-! ## Items -/

/-- The letters of the directives, and the items that each stands for. No letters begin with others. -/
def conversions : List (Text × List Item) :=
  [(['Y'], [.number .year .zeros]), (['y'], [.number .shortYear .zeros]), (['m'], [.number .month .zeros]),
   (['d'], [.number .day .zeros]), (['e'], [.number .day .spaces]), (['B'], [.monthName]), (['b'], [.monthAbbreviation]),
   (['h'], [.monthAbbreviation]), (['A'], [.weekdayName]), (['a'], [.weekdayAbbreviation]),
   (['%'], [.text ['%']]), (['n'], [.space ['\n']]), (['t'], [.space ['\t']]),
   (['D'], monthDayYear), (['x'], monthDayYear),
   (['F'], [.number .year .zeros, .text ['-'], .number .month .zeros, .text ['-'], .number .day .zeros]),
   (['v'], [.number .day .spaces, .text ['-'], .monthAbbreviation, .text ['-'], .number .year .zeros])]
  ++ ['C', 'G', 'H', 'I', 'M', 'S', 'U', 'V', 'W', 'f', 'g', 'j'].map (foreignNumber .zeros)
  ++ ['k', 'l'].map (foreignNumber .spaces)
  ++ ['q', 's', 'u', 'w'].map (foreignNumber .nothing)
  ++ [['P'], ['R'], ['T'], ['X'], ['Z'], ['c'], ['p'], ['r'], ['z'], ['+'], ['#', 'z'], [':', 'z'], [':', ':', 'z'],
      [':', ':', ':', 'z'], ['.', 'f'], ['.', '3', 'f'], ['.', '6', 'f'], ['.', '9', 'f'], ['3', 'f'], ['6', 'f'],
      ['9', 'f']].map fun letters => (letters, [.foreign ⟨letters, none⟩])
where
  /-- Month, day and two digits of the year, joined by slashes. -/
  monthDayYear : List Item :=
    [.number .month .zeros, .text ['/'], .number .day .zeros, .text ['/'], .number .shortYear .zeros]
  /-- A number that no layout asks for. -/
  foreignNumber (filling : Filling) (letter : Char) : Text × List Item := ([letter], [.foreign ⟨[letter], some filling⟩])

/-- The items of the letters that a text begins with, and how many letters these are. -/
def conversion? (s : Text) : Option (List Item × Nat) :=
  (conversions.find? (·.1.isPrefixOf s)).map fun (letters, items) => (items, letters.length)

/-- The filling that a mark asks for. -/
def fillingOf? : Char → Option Filling
  | '-' => some .nothing
  | '0' => some .zeros
  | '_' => some .spaces
  | _ => none

/-- A directive for a number, and no other, with another filling. -/
def refill? (filling : Filling) : List Item → Option (List Item)
  | [.number quantity _] => some [.number quantity filling]
  | [.foreign ⟨letters, some _⟩] => some [.foreign ⟨letters, some filling⟩]
  | _ => none

/-- The items of the directive that a text begins with after its percent sign, and how many characters it takes there. -/
def directive? : Text → Option (List Item × Nat)
  | [] => none
  | c :: rest =>
    match fillingOf? c with
    | some filling => do
      let (items, n) ← conversion? rest
      return (← refill? filling items, n + 1)
    | none => conversion? (c :: rest)

/-- A character goes on with the run that another one begins: white space after white space, other text after other text. -/
def goesOn (c d : Char) : Bool := d != '%' && Text.isBlank d == Text.isBlank c

/-- The run that a character begins. -/
def Item.ofRun (c : Char) (more : Text) : Item := if Text.isBlank c then .space (c :: more) else .text (c :: more)

/-- The items of a text: directives, runs of white space and runs of other text. A percent sign without a directive spoils the
    text. -/
def items? : Text → Option (List Item)
  | [] => some []
  | c :: rest =>
    if c = '%' then (directive? rest).bind fun (items, n) => (items? (rest.drop n)).map (items ++ ·)
    else (items? (rest.dropWhile (goesOn c))).map (.ofRun c (rest.takeWhile (goesOn c)) :: ·)
termination_by s => s.length
decreasing_by
  · simp only [List.length_drop, List.length_cons]
    omega
  · have := (List.dropWhile_sublist (goesOn c) (l := rest)).length_le
    simp only [List.length_cons]
    omega

/-! ## Printing -/

/-- A numeral brought to a least width. -/
def Filling.fill (filling : Filling) (width : Nat) (numeral : Text) : Text :=
  match filling with
  | zeros => List.replicate (width - numeral.length) '0' ++ numeral
  | spaces => List.replicate (width - numeral.length) ' ' ++ numeral
  | nothing => numeral

/-- A numeral after its sign, brought to a least width: zeros go between the two, spaces before both. -/
def Filling.fillSigned (filling : Filling) (width : Nat) (sign : Char) (numeral : Text) : Text :=
  match filling with
  | zeros => sign :: fill zeros width numeral
  | spaces => fill spaces (width + 1) (sign :: numeral)
  | nothing => sign :: numeral

/-- A year, signed where it does not have four digits at most. -/
def Filling.year (filling : Filling) (year : Int) : Text :=
  if 0 ≤ year ∧ year ≤ 9999 then filling.fill 4 (Text.ofNat year.natAbs)
  else filling.fillSigned 4 (if year < 0 then '-' else '+') (Text.ofNat year.natAbs)

/-- A number of a date. -/
def Quantity.format (d : Date) (filling : Filling) : Quantity → Text
  | year => filling.year d.year
  | shortYear => filling.fill 2 (Text.ofNat (d.year % 100).toNat)
  | month => filling.fill 2 (Text.ofNat d.month)
  | day => filling.fill 2 (Text.ofNat d.day)

section

variable (foreign : Foreign → Date → Option Text) (d : Date)

/-- An item printed for a date; a foreign directive may ask for what no date has. -/
def Item.format? : Item → Option Text
  | number quantity filling => some (quantity.format d filling)
  | monthName => some d.monthName
  | monthAbbreviation => some (d.monthName.take 3)
  | weekdayName => some d.weekdayName
  | weekdayAbbreviation => some (d.weekdayName.take 3)
  | .foreign directive => foreign directive d
  | space blanks => some blanks
  | text characters => some characters

/-- Items printed for a date, if all of them can be. -/
def Item.formatAll? : List Item → Option Text
  | [] => some []
  | item :: items => do return (← item.format? foreign d) ++ (← formatAll? items)

end

/-! ## Reading -/

section

variable (foreign : Foreign → Findings → Text → Option (Findings × Text))

/-- An item read off a text. Its filling makes no difference to a number, and white space stands for any white space or none. -/
def Item.read? (found : Findings) (s : Text) : Item → Option (Findings × Text)
  | number .year _ => Field.year.read? found s
  | number .shortYear _ => Field.shortYear.read? found s
  | number .month _ => Field.month.read? found s
  | number .day _ => Field.day.read? found s
  | monthName => Field.monthName.read? found s
  | monthAbbreviation => Field.monthAbbreviation.read? found s
  | weekdayName => Field.weekdayName.read? found s
  | weekdayAbbreviation => Field.weekdayAbbreviation.read? found s
  | .foreign directive => foreign directive found s
  | space _ => some (found, s.trimStart)
  | text characters => (characters.isPrefixOf? s).map (found, ·)

/-- What the items find in a text that they use up. -/
def Item.readAll? : List Item → Findings → Text → Option Findings
  | [], found, s => if s.isEmpty then some found else none
  | item :: items, found, s => do
    let (found, rest) ← item.read? foreign found s
    readAll? items found rest

end

/-! ## Layouts as directives -/

/-- The letters of the directive for a field. -/
def Field.letters : Field → Text
  | year => ['Y']
  | shortYear => ['y']
  | monthName => ['B']
  | monthAbbreviation => ['b']
  | paddedMonth => ['m']
  | month => ['-', 'm']
  | paddedDay => ['d']
  | day => ['-', 'd']
  | weekdayName => ['A']
  | weekdayAbbreviation => ['a']

/-- Literal text with its percent signs doubled. -/
def doubled (text : Text) : Text := text.flatMap fun c => if c = '%' then ['%', '%'] else [c]

/-- A token as directives. -/
def Token.directives : Token → Text
  | field f => '%' :: f.letters
  | literal text => doubled text

/-- A layout as directives. -/
def directives (layout : DateLayout) : Text := layout.tokens.flatMap Token.directives

/-- A date printed by the directives of a layout; nothing is printed where a percent sign begins no directive. -/
def formatByDirectives? (layout : DateLayout) (foreign : Foreign → Date → Option Text) (d : Date) : Option Text := do
  Item.formatAll? foreign d (← items? layout.directives)

/-- The date that the whole text spells, read by the directives of a layout. -/
def parseByDirectives? (layout : DateLayout) (foreign : Foreign → Findings → Text → Option (Findings × Text)) (s : Text) :
    Option Date := do
  (← Item.readAll? foreign (← items? layout.directives) {} s).date?

end ReadingLog.DateLayout
