import ReadingLog.Date

/-!
# Dates and times

Dates and times as values of a settings document: a date, a time, or both with an offset from universal time if there is one.
-/

namespace ReadingLog.Toml.Moment

/-- The number that exactly `width` digits give, and what follows them. -/
def number? (width : Nat) (s : Text) : Option (Nat × Text) :=
  let digits := s.take width
  if digits.length = width ∧ digits.all Char.isDigit then some (Text.value digits, s.drop width) else none

/-- What follows a character that a text has to begin with. -/
def expect? (c : Char) : Text → Option Text
  | d :: rest => if d = c then some rest else none
  | [] => none

/-- What follows a date, such as `2024-02-29`. -/
def dropDate? (s : Text) : Option Text := do
  let (year, rest) ← number? 4 s
  let (month, rest) ← number? 2 (← expect? '-' rest)
  let (day, rest) ← number? 2 (← expect? '-' rest)
  if IsDay year month day then some rest else none

/-- What follows hours and minutes, such as `23:59`. -/
def dropClock? (s : Text) : Option Text := do
  let (hour, rest) ← number? 2 s
  let (minute, rest) ← number? 2 (← expect? ':' rest)
  if hour ≤ 23 ∧ minute ≤ 59 then some rest else none

/-- What follows a time, such as `23:59:60.25`. -/
def dropTime? (s : Text) : Option Text := do
  let (second, rest) ← number? 2 (← expect? ':' (← dropClock? s))
  if 60 < second then none
  match rest with
  | '.' :: d :: after => if d.isDigit then some (after.dropWhile Char.isDigit) else some rest
  | _ => some rest

/-- What follows an offset from universal time, if there is one. -/
def dropOffset (s : Text) : Text :=
  match s with
  | c :: rest =>
    if c = 'Z' ∨ c = 'z' then rest
    else if c = '+' ∨ c = '-' then (dropClock? rest).getD s
    else s
  | [] => []

/-- What follows a date, and a time after it. -/
def dropDateAndTime? (s : Text) : Option Text := do
  let rest ← dropDate? s
  match rest with
  | c :: after =>
    if c = 'T' ∨ c = 't' ∨ c = ' ' then return ((dropTime? after).map dropOffset).getD rest
    else some rest
  | [] => some rest

/-- A date or time at the start of a text, and what follows it. -/
def read? (s : Text) : Option (Text × Text) :=
  (dropDateAndTime? s <|> dropTime? s).map fun rest => (s.take (s.length - rest.length), rest)

end ReadingLog.Toml.Moment
