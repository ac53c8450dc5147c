import EntityForge.Calendar.Civil
import EntityForge.Text.Numeral

/-!
# Instants

An instant is a number of seconds since the start of 1970 in UTC with a fraction in nanoseconds. A
fraction of a whole second or more marks a leap second. Instants reach from the start of the year
-262143 to the end of the year 262142.

An instant is written as a date and a time in UTC. Years outside four digits carry a sign, and the
fraction has three, six or nine digits, as few as suffice, or is left out when it is zero.
-/

namespace EntityForge.Calendar

/-- A point in time. -/
structure Instant where
  /-- The seconds since the start of 1970. -/
  seconds : Int
  /-- The nanoseconds on top; from `10 ^ 9` on, those of a leap second. -/
  nanos : Nat := 0
  deriving DecidableEq, Repr

/-- The seconds of a day. -/
def secondsPerDay : Nat := 86400

/-- The first year that an instant can lie in. -/
def firstYear : Int := -262143

/-- The last year that an instant can lie in. -/
def lastYear : Int := 262142

namespace Instant

/-- The day of an instant. -/
def date (t : Instant) : Civil :=
  Civil.ofDay (t.seconds / secondsPerDay)

/-- The second of the day of an instant. -/
def secondOfDay (t : Instant) : Nat :=
  (t.seconds % secondsPerDay).toNat

/-- Whether the day of an instant is within reach. -/
def inRange (t : Instant) : Bool :=
  firstYear ≤ t.date.year && t.date.year ≤ lastYear

/-- The instant of a number of seconds, if it is within reach. -/
def ofSeconds? (seconds : Int) : Option Instant :=
  let t : Instant := ⟨seconds, 0⟩
  if t.inRange then some t else none

end Instant

/-- A year: four digits, or a sign and at least four digits. -/
def yearText (year : Int) : String :=
  if 0 ≤ year ∧ year ≤ 9999 then Text.padded 4 year.toNat
  else if year < 0 then "-" ++ Text.padded 4 year.natAbs
  else "+" ++ Text.padded 4 year.natAbs

/-- A date with hyphens. -/
def Civil.text (c : Civil) : String :=
  yearText c.year ++ "-" ++ Text.padded 2 c.month ++ "-" ++ Text.padded 2 c.day

/-- A fraction of a second, with as few groups of three digits as suffice. -/
def fractionText (nanos : Nat) : String :=
  if nanos = 0 then ""
  else if nanos % 1000000 = 0 then "." ++ Text.padded 3 (nanos / 1000000)
  else if nanos % 1000 = 0 then "." ++ Text.padded 6 (nanos / 1000)
  else "." ++ Text.padded 9 nanos

namespace Instant

/-- The time of day to the second, with sixty seconds in a leap second. -/
def clockText (t : Instant) : String :=
  let s := t.secondOfDay
  Text.padded 2 (s / 3600) ++ ":" ++ Text.padded 2 (s / 60 % 60) ++ ":" ++
    Text.padded 2 (s % 60 + t.nanos / 1000000000)

/-- The date and time as documents exchange it. -/
def toText (t : Instant) : String :=
  t.date.text ++ "T" ++ t.clockText ++ fractionText (t.nanos % 1000000000) ++ "Z"

/-- The date and time as comments show it, without the fraction. -/
def toPlainText (t : Instant) : String :=
  t.date.text ++ " " ++ t.clockText

end Instant

end EntityForge.Calendar
