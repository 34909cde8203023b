import ReadingLog.Text.Decimal
import ReadingLog.Error

/-!
# Calendar dates

Days of the proleptic Gregorian calendar within a wide range of years. A `Date` carries the proof that its day exists.
The module holds the order of dates, the day after and before, weekdays by counting days, and the names of months and
weekdays.
-/

namespace ReadingLog

/-- Leap years of the Gregorian calendar. -/
def isLeapYear (year : Int) : Bool := year % 4 == 0 && (year % 100 != 0 || year % 400 == 0)

/-- The number of days of a month, counted from 1. -/
def daysInMonth (year : Int) (month : Nat) : Nat :=
  match month with
  | 2 => if isLeapYear year then 29 else 28
  | 4 | 6 | 9 | 11 => 30
  | _ => 31

/-- The first year that has dates. -/
def firstYear : Int := -262143

/-- The last year that has dates. -/
def lastYear : Int := 262142

/-- Year, month and day name a day of the calendar. -/
structure IsDay (year : Int) (month day : Nat) : Prop where
  year_range : firstYear ≤ year ∧ year ≤ lastYear
  month_range : 1 ≤ month ∧ month ≤ 12
  day_range : 1 ≤ day ∧ day ≤ daysInMonth year month

instance (year : Int) (month day : Nat) : Decidable (IsDay year month day) :=
  if h : (firstYear ≤ year ∧ year ≤ lastYear) ∧ (1 ≤ month ∧ month ≤ 12) ∧ (1 ≤ day ∧ day ≤ daysInMonth year month) then
    .isTrue ⟨h.1, h.2.1, h.2.2⟩
  else .isFalse fun d => h ⟨d.1, d.2, d.3⟩

/-- A day of the calendar. -/
structure Date where
  year : Int
  month : Nat
  day : Nat
  isDay : IsDay year month day
  deriving DecidableEq

namespace Date

/-- The date with this year, month and day, if there is such a day. -/
def ofYMD? (year : Int) (month day : Nat) : Option Date :=
  if h : IsDay year month day then some ⟨year, month, day, h⟩ else none

/-- Dates compare by year, then month, then day. -/
protected def le (a b : Date) : Prop :=
  a.year < b.year ∨ a.year = b.year ∧ (a.month < b.month ∨ a.month = b.month ∧ a.day ≤ b.day)

instance : LE Date := ⟨Date.le⟩
instance : LT Date := ⟨fun a b => ¬ b ≤ a⟩

instance (a b : Date) : Decidable (a ≤ b) :=
  inferInstanceAs
    (Decidable (a.year < b.year ∨ a.year = b.year ∧ (a.month < b.month ∨ a.month = b.month ∧ a.day ≤ b.day)))

instance (a b : Date) : Decidable (a < b) := inferInstanceAs (Decidable (¬ b ≤ a))

/-- The day after, if the calendar goes on. -/
def next? (d : Date) : Option Date :=
  ofYMD? d.year d.month (d.day + 1) <|> ofYMD? d.year (d.month + 1) 1 <|> ofYMD? (d.year + 1) 1 1

/-- The day before, if the calendar starts earlier. -/
def previous? (d : Date) : Option Date :=
  ofYMD? d.year d.month (d.day - 1) <|> ofYMD? d.year (d.month - 1) (daysInMonth d.year (d.month - 1))
    <|> ofYMD? (d.year - 1) 12 31

/-- Days from the first day of year 1, which is day 1, on to this day. -/
def dayNumber (d : Date) : Int :=
  let past := d.year - 1
  365 * past + past / 4 - past / 100 + past / 400
    + (List.range (d.month - 1)).foldl (fun days m => days + (daysInMonth d.year (m + 1) : Int)) 0 + d.day

/-- The weekday, counted from Monday as 0. -/
def weekday (d : Date) : Nat := ((d.dayNumber - 1) % 7).toNat

/-- The full names of the months. -/
def monthNames : List String :=
  ["January", "February", "March", "April", "May", "June", "July", "August", "September", "October", "November",
   "December"]

/-- The full names of the weekdays. -/
def weekdayNames : List String := ["Monday", "Tuesday", "Wednesday", "Thursday", "Friday", "Saturday", "Sunday"]

/-- The full name of the date's month. -/
def monthName (d : Date) : Text := ((monthNames[d.month - 1]?).getD "").toList

/-- The full name of the date's weekday. -/
def weekdayName (d : Date) : Text := ((weekdayNames[d.weekday]?).getD "").toList

/-- A year has at least four digits, and a sign where it does not have exactly four or is below zero. -/
def yearText (year : Int) : Text :=
  if year < 0 then '-' :: Text.padded 4 year.natAbs
  else if 9999 < year then '+' :: Text.padded 4 year.natAbs
  else Text.padded 4 year.natAbs

/-- Year, month and day joined by hyphens. -/
def isoText (d : Date) : Text := yearText d.year ++ '-' :: Text.padded 2 d.month ++ '-' :: Text.padded 2 d.day

end Date
end ReadingLog
