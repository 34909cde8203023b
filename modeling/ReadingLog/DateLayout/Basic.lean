import ReadingLog.Date

/-!
# Date layouts

A layout says how dates are spelled in the names of notes: fields such as `YYYY` or `MMMM` and literal text, which square
brackets may protect. `Token.ofPattern` reads a pattern into tokens; a `DateLayout` is a pattern whose tokens fix the
year, the month and the day. `DateLayout.format` spells a date.
-/

namespace ReadingLog

namespace DateLayout

/-- A part of a date that a layout can ask for. -/
inductive Field where
  | year
  | shortYear
  | monthName
  | monthAbbreviation
  | paddedMonth
  | month
  | paddedDay
  | day
  | weekdayName
  | weekdayAbbreviation
  deriving DecidableEq, Repr

namespace Field

/-- Every field, each before those whose spelling begins its own. -/
def all : List Field :=
  [year, shortYear, monthName, monthAbbreviation, paddedMonth, month, paddedDay, day, weekdayName, weekdayAbbreviation]

/-- How a pattern asks for the field. -/
def spelling : Field → Text
  | year => ['Y', 'Y', 'Y', 'Y']
  | shortYear => ['Y', 'Y']
  | monthName => ['M', 'M', 'M', 'M']
  | monthAbbreviation => ['M', 'M', 'M']
  | paddedMonth => ['M', 'M']
  | month => ['M']
  | paddedDay => ['D', 'D']
  | day => ['D']
  | weekdayName => ['d', 'd', 'd', 'd']
  | weekdayAbbreviation => ['d', 'd', 'd']

/-- The field gives the year. -/
def isYear (f : Field) : Bool := f matches year | shortYear

/-- The field gives the month. -/
def isMonth (f : Field) : Bool := f matches monthName | monthAbbreviation | paddedMonth | month

/-- The field gives the day of the month. -/
def isDay (f : Field) : Bool := f matches paddedDay | day

/-- The text of a field for a date. -/
def format (d : Date) : Field → Text
  | year => Date.yearText d.year
  | shortYear => Text.padded 2 (d.year % 100).toNat
  | monthName => d.monthName
  | monthAbbreviation => d.monthName.take 3
  | paddedMonth => Text.padded 2 d.month
  | month => Text.ofNat d.month
  | paddedDay => Text.padded 2 d.day
  | day => Text.ofNat d.day
  | weekdayName => d.weekdayName
  | weekdayAbbreviation => d.weekdayName.take 3

end Field

/-- A piece of a layout. -/
inductive Token where
  | field (field : Field)
  | literal (text : Text)
  deriving DecidableEq, Repr

namespace Token

/-- Tokens with literal text in front, joined to a literal that comes first. -/
def prependLiteral (text : Text) : List Token → List Token
  | literal later :: tokens => literal (text ++ later) :: tokens
  | tokens => literal text :: tokens

/-- The tokens of a pattern: the longest field spelled at each place, bracketed text and any other character as it is.
    A bracket that is never closed protects the rest of the pattern. -/
def ofPattern : Text → List Token
  | [] => []
  | '[' :: rest => prependLiteral (rest.takeWhile (· != ']')) (ofPattern ((rest.dropWhile (· != ']')).drop 1))
  | c :: rest =>
    match Field.all.find? (·.spelling.isPrefixOf (c :: rest)) with
    | some f => field f :: ofPattern (rest.drop (f.spelling.length - 1))
    | none => prependLiteral [c] (ofPattern rest)
termination_by pattern => pattern.length
decreasing_by
  · have := (List.dropWhile_sublist (· != ']') (l := rest)).length_le
    simp only [List.length_drop, List.length_cons]
    omega
  · simp only [List.length_drop, List.length_cons]
    omega
  · simp

/-- Some field of the tokens has a property. -/
def anyField (p : Field → Bool) (tokens : List Token) : Bool :=
  tokens.any fun
    | field f => p f
    | literal _ => false

/-- The tokens fix a date: there is a year, a month and a day. -/
def areComplete (tokens : List Token) : Bool :=
  anyField Field.isYear tokens && anyField Field.isMonth tokens && anyField Field.isDay tokens

/-- The text of a token for a date. -/
def format (d : Date) : Token → Text
  | field f => f.format d
  | literal text => text

end Token
end DateLayout

/-- A pattern that spells whole dates. -/
structure DateLayout where
  pattern : String
  complete : DateLayout.Token.areComplete (DateLayout.Token.ofPattern pattern.toList) = true
  deriving DecidableEq

namespace DateLayout

/-- The tokens of the pattern. -/
def tokens (layout : DateLayout) : List Token := Token.ofPattern layout.pattern.toList

/-- The layout with a given pattern; a pattern without a year, a month or a day is refused. -/
def ofPattern (pattern : String) : Except Error DateLayout :=
  if h : Token.areComplete (Token.ofPattern pattern.toList) = true then .ok ⟨pattern, h⟩
  else .error (.invalidDateLayout pattern)

/-- The pattern of the layout that is used where none is given. -/
def defaultPattern : String := "YYYY-MM-DD"

/-- Year, month and day joined by hyphens. -/
def iso : DateLayout := ⟨defaultPattern, by decide +kernel⟩

instance : Inhabited DateLayout := ⟨iso⟩

/-- A date spelled in a layout. -/
def format (layout : DateLayout) (d : Date) : Text := layout.tokens.flatMap (Token.format d)

end DateLayout
end ReadingLog
