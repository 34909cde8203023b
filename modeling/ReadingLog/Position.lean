import ReadingLog.Text.Decimal
import ReadingLog.Error

/-!
# Reading positions

A position in a book is a page or a percentage. Positions are read from and written as text in their unit.
-/

namespace ReadingLog

/-- How far a reader has got in a book. -/
inductive Position where
  | page (number : UInt32)
  | percent (share : UInt8)
  deriving DecidableEq, Repr

namespace Position

/-- What a position is counted in. -/
inductive Measure where
  | pages
  | percentage
  deriving DecidableEq, Repr

/-- What this position is counted in. -/
def measure : Position → Measure
  | page _ => .pages
  | percent _ => .percentage

/-- The greatest page number. -/
def lastPage : Nat := 4294967295

/-- A page: decimal digits up to `lastPage`. -/
def page? (s : Text) : Option Position :=
  match s.word? with
  | some n => if n.toNat ≤ lastPage then some (.page n.toUInt32) else none
  | none => none

/-- A percentage: decimal digits up to 100, then at most one percent sign. -/
def percent? (s : Text) : Option Position :=
  match (s.dropSuffix ['%']).word? with
  | some n => if n ≤ 100 then some (.percent n.toUInt8) else none
  | none => none

/-- The position that a text gives in a measure. -/
def ofText? : Measure → Text → Option Position
  | .pages => page?
  | .percentage => percent?

/-- The position that a token gives in a measure; any other token is refused as it stands. -/
def parse (unit : Measure) (token : String) : Except Error Position :=
  match ofText? unit token.toList with
  | some position => .ok position
  | none => .error (.invalidPosition token)

/-- Pages are written as they are, percentages with their sign. -/
def toText : Position → Text
  | page n => Text.ofNat n.toNat
  | percent n => Text.ofNat n.toNat ++ ['%']

/-- The written form as a string. -/
def render (p : Position) : String := String.ofList p.toText

/-- Positions compare when they have the same measure. -/
def compare? : Position → Position → Option Ordering
  | page m, page n => some (compare m.toNat n.toNat)
  | percent m, percent n => some (compare m.toNat n.toNat)
  | _, _ => none

/-- Strictly before, for comparable positions. -/
def isBefore (a b : Position) : Bool := a.compare? b == some .lt

/-- Before or equal, for comparable positions. -/
def isAtMost (a b : Position) : Bool := a.isBefore b || a.compare? b == some .eq

end Position
end ReadingLog
