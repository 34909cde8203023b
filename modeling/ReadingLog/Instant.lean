import ReadingLog.DateLayout.Reading

/-!
# Instants

A point in time in universal time, down to nanoseconds. Instants are read leniently from a date, a time and an offset, and
written in one way: `2024-02-29T23:59:60.5Z` is written as `2024-02-29T23:59:60.500Z`.
-/

namespace ReadingLog

/-- A point in time. A second 60 is a leap second. -/
structure Instant where
  date : Date
  /-- The minute of the day. -/
  minute : Nat
  second : Nat
  nanosecond : Nat
  minute_lt : minute < 1440
  second_le : second ≤ 60
  nanosecond_lt : nanosecond < 1000000000
  deriving DecidableEq

namespace Instant

/-! ## Reading -/

/-- What follows a character that may have white space before it. -/
def expect? (c : Char) (s : Text) : Option Text := [c].isPrefixOf? s.trimStart

/-- The nanoseconds of a fraction of a second, of which nine digits count, and what follows it. -/
def readFraction? (s : Text) : Option (Nat × Text) :=
  match s with
  | '.' :: rest =>
    let digits := rest.takeWhile Char.isDigit
    let kept := digits.take 9
    if digits.isEmpty then none
    else some (Text.value kept * Nat.pow 10 (9 - kept.length), rest.dropWhile Char.isDigit)
  | _ => some (0, s)

/-- The minutes of an offset in hours and minutes, with colons or white space between them, and what follows it. -/
def readClock? (s : Text) : Option (Nat × Text) := do
  let hours := s.take 2
  let rest := (s.drop 2).dropWhile fun c => c = ':' || Text.isBlank c
  let minutes := rest.take 2
  if hours.length = 2 ∧ minutes.length = 2 ∧ (hours ++ minutes).all Char.isDigit ∧ Text.value minutes < 60 then
    some (60 * Text.value hours + Text.value minutes, rest.drop 2)
  else none

/-- The minutes by which a local time is ahead of universal time, and what follows the offset. -/
def readOffset? (s : Text) : Option (Int × Text) :=
  match s with
  | c :: rest =>
    if Text.sameIgnoringCase (s.take 3) ['U', 'T', 'C'] then some (0, s.drop 3)
    else if c = 'Z' ∨ c = 'z' then some (0, rest)
    else if c = '+' then (readClock? rest).map fun (n, rest) => (n, rest)
    else if c = '-' ∨ c = '−' then (readClock? rest).map fun (n, rest) => (-n, rest)
    else none
  | [] => none

/-- The instant of a local time that is ahead of universal time by some minutes, less than a day. -/
def ofLocal? (date : Date) (hour minute second nanosecond : Nat) (ahead : Int) : Option Instant := do
  if 23 < hour ∨ 59 < minute ∨ 1440 ≤ ahead.natAbs then none
  let total : Int := 60 * hour + minute - ahead
  let day ← if total < 0 then date.previous? else if 1440 ≤ total then date.next? else some date
  let minute := (total % 1440).toNat
  if h : minute < 1440 ∧ second ≤ 60 ∧ nanosecond < 1000000000 then
    some ⟨day, minute, second, nanosecond, h.1, h.2.1, h.2.2⟩
  else none

/-- The instant that the whole text gives: a date, a `t` or a space, a time and an offset. -/
def parse? (s : Text) : Option Instant := do
  let (year, rest) ← DateLayout.readYear? s
  let (month, rest) ← DateLayout.readNumber? 2 (← expect? '-' rest)
  let (day, rest) ← DateLayout.readNumber? 2 (← expect? '-' rest)
  let separator ← rest.head?
  if separator ≠ 'T' ∧ separator ≠ 't' ∧ separator ≠ ' ' then none
  let (hour, rest) ← DateLayout.readNumber? 2 (rest.drop 1)
  let (minute, rest) ← DateLayout.readNumber? 2 (← expect? ':' rest)
  let (second, rest) ← DateLayout.readNumber? 2 (← expect? ':' rest)
  let (nanosecond, rest) ← readFraction? rest
  let (ahead, rest) ← readOffset? rest.trimStart
  if !rest.trimStart.isEmpty then none
  ofLocal? (← Date.ofYMD? year month day) hour minute second nanosecond ahead

/-! ## Writing -/

/-- A fraction of a second in three, six or nine digits, whichever suffice; none for a whole second. -/
def fractionText (nanosecond : Nat) : Text :=
  if nanosecond = 0 then []
  else if nanosecond % 1000000 = 0 then '.' :: Text.padded 3 (nanosecond / 1000000)
  else if nanosecond % 1000 = 0 then '.' :: Text.padded 6 (nanosecond / 1000)
  else '.' :: Text.padded 9 nanosecond

/-- The written form. -/
def toText (i : Instant) : Text :=
  i.date.isoText ++ 'T' :: Text.padded 2 (i.minute / 60) ++ ':' :: Text.padded 2 (i.minute % 60)
    ++ ':' :: Text.padded 2 i.second ++ fractionText i.nanosecond ++ ['Z']

/-! ## Counting -/

/-- The day a number of days after a day. -/
def dayAfter? : Nat → Date → Option Date
  | 0, d => some d
  | n + 1, d => d.next?.bind (dayAfter? n)

/-- The first day of 1970. -/
def epoch : Date := ⟨1970, 1, 1, by decide⟩

/-- The first instant of 1970. -/
def start : Instant := ⟨epoch, 0, 0, 0, by decide, by decide, by decide⟩

/-- The instant some seconds and nanoseconds after the start of 1970. -/
def ofSeconds? (seconds nanoseconds : Nat) : Option Instant := do
  let day ← dayAfter? (seconds / 86400) epoch
  let ofDay := seconds % 86400
  ofLocal? day (ofDay / 3600) (ofDay / 60 % 60) (ofDay % 60) nanoseconds 0

end Instant
end ReadingLog
